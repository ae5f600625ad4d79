import Mathlib.Data.List.Basic
import SmartForm.Validation.Validator

/-!
# What a chain finds

The rules of a field **demand** validators (`SmartForm.Validator.Demands`), and a validator
**rejects** values with a violation (`SmartForm.Validator.Rejects`). What a chain finds in a
value is what the validators reject that the rules demand, in an order that is always the same
(`SmartForm.Validator.violations_isVerdict`).

The one thing to know is that a value which is not filled in is a matter of one validator.
All others let it pass, so nothing has to be known of lengths, patterns and bounds to say what
is found in it; and in a value that is filled in, each validator finds at most one violation,
of its own kind.
-/

namespace SmartForm

variable {v : Json}

/-! ### Values -/

namespace Json

/-- The values that are not filled in. -/
inductive IsUnfilled : Json → Prop
  | null : IsUnfilled .null
  | text : IsUnfilled (.string "")
  | list : IsUnfilled (.array [])

/-- The length of a value: a text has characters and a list has items. -/
inductive HasLength : Json → Nat → Prop
  | text (s : String) : HasLength (.string s) s.toList.length
  | list (items : List Json) : HasLength (.array items) items.length

theorem isEmpty_iff : v.isEmpty = true ↔ v.IsUnfilled := by
  constructor
  · intro h
    cases v with
    | null => exact .null
    | string s => exact String.isEmpty_iff.mp h ▸ .text
    | array items => exact List.isEmpty_iff.mp h ▸ .list
    | _ => cases h
  · rintro (_ | _ | _) <;> rfl

theorem isEmpty_eq_false_iff : v.isEmpty = false ↔ ¬v.IsUnfilled := by
  rw [← isEmpty_iff, Bool.not_eq_true]

end Json

theorem Validator.length?_eq_some_iff {n : Nat} : length? v = some n ↔ v.HasLength n := by
  constructor
  · intro h
    cases v with
    | string s => exact Option.some.inj h ▸ String.length_toList ▸ .text s
    | array items => exact Option.some.inj h ▸ .list items
    | _ => cases h
  · rintro (s | items)
    · exact congrArg some String.length_toList.symm
    · rfl

/-! ### Bounds -/

/-- **The bound that a value declares**: a finite number, a text that writes one, or else a
text that writes a date. Blanks around the text do not count. -/
inductive Bound.Declares : Json → Bound → Prop
  | number {n : Number} : n.toDouble.isFinite = true → Declares (.number n) (.number n.toDouble)
  | numeral {s : String} {d : Double} :
    Double.parse? (Text.trim s) = some d → d.isFinite = true → Declares (.string s) (.number d)
  | date {s : String} {d : Date} :
    (∀ x, Double.parse? (Text.trim s) = some x → x.isFinite = false) →
      Date.parse? (Text.trim s) = some d → Declares (.string s) (.date d)

theorem Bound.ofJson?_eq_some_iff {b : Bound} : ofJson? v = some b ↔ Declares v b := by
  cases v with
  | number n =>
    rw [ofJson?, Option.ite_none_right_eq_some, Option.some.injEq]
    exact ⟨fun ⟨hfinite, hb⟩ => hb ▸ .number hfinite, fun h => by cases h; exact ⟨‹_›, rfl⟩⟩
  | string s =>
    simp only [ofJson?]
    cases hread : (Double.parse? (Text.trim s)).filter Double.isFinite with
    | some x =>
      obtain ⟨hx, hfinite⟩ := Option.filter_eq_some_iff.mp hread
      constructor
      · rintro ⟨⟩
        exact .numeral hx hfinite
      · rintro (_ | ⟨hd, -⟩ | ⟨hno, -⟩)
        · rw [hx] at hd
          cases hd
          rfl
        · rw [hno x hx] at hfinite
          cases hfinite
    | none =>
      have hno := Option.filter_eq_none_iff.mp hread
      simp only [Option.map_eq_some_iff]
      constructor
      · rintro ⟨d, hd, rfl⟩
        exact .date (fun x hx => Bool.not_eq_true _ ▸ hno x hx) hd
      · rintro (_ | ⟨hd, hfinite⟩ | ⟨-, hd⟩)
        · exact absurd hfinite (hno _ hd)
        · exact ⟨_, hd, rfl⟩
  | _ => exact ⟨nofun, nofun⟩

/-- A value declares no more than one bound. -/
theorem Bound.Declares.unique {b b' : Bound} (h : Declares v b) (h' : Declares v b') : b = b' :=
  Option.some.inj ((ofJson?_eq_some_iff.mpr h).symm.trans (ofJson?_eq_some_iff.mpr h'))

namespace Validator

variable {validator : Validator} {e : Violation} {f : FieldSpec}

/-! ### What a validator rejects -/

/-- **What a validator rejects**, and with which violation. -/
inductive Rejects : Validator → Json → Violation → Prop
  /-- Only the validator that requires a value rejects one that is not filled in. -/
  | required {v : Json} : v.IsUnfilled → Rejects .required v .required
  /-- What is no text is no email address either. -/
  | email {v : Json} :
    ¬v.IsUnfilled → (∀ s, v = .string s → Email.isEmail s = false) → Rejects .email v .email
  | minLength {v : Json} {least actual : Nat} :
    ¬v.IsUnfilled → v.HasLength actual → actual < least →
      Rejects (.minLength least) v (.minLength least actual)
  | maxLength {v : Json} {most actual : Nat} :
    ¬v.IsUnfilled → v.HasLength actual → most < actual →
      Rejects (.maxLength most) v (.maxLength most actual)
  /-- A value without a text is not compared with a pattern. -/
  | pattern {v : Json} {source text : String} {regex : Regex} :
    ¬v.IsUnfilled → v.scalarText? = some text → regex.isMatch text = false →
      Rejects (.pattern source regex) v (.pattern source)
  | min {v : Json} {b : Bound} :
    ¬v.IsUnfilled → b.compare? v = some .lt → Rejects (.min b) v (.min b.text)
  | max {v : Json} {b : Bound} :
    ¬v.IsUnfilled → b.compare? v = some .gt → Rejects (.max b) v (.max b.text)

theorem check_of_filled (hv : ¬v.IsUnfilled) (validator : Validator) :
    validator.check v = validator.checkFilled v := by
  unfold check
  rw [Json.isEmpty_eq_false_iff.mpr hv]
  rfl

theorem check_of_rejects (h : Rejects validator v e) : validator.check v = some e := by
  cases h with
  | required hv => rw [check, if_pos (Json.isEmpty_iff.mpr hv)]
  | email hv hno =>
    have hany : (v.string?).any Email.isEmail = false := by
      cases v with
      | string s => exact hno s rfl
      | _ => rfl
    simp [check_of_filled hv, checkFilled, hany]
  | minLength hv hlength hlt =>
    simp [check_of_filled hv, checkFilled, length?_eq_some_iff.mpr hlength, hlt]
  | maxLength hv hlength hlt =>
    simp [check_of_filled hv, checkFilled, length?_eq_some_iff.mpr hlength, hlt]
  | pattern hv htext hmatch => simp [check_of_filled hv, checkFilled, htext, hmatch]
  | min hv hlt => simp [check_of_filled hv, checkFilled, hlt]
  | max hv hgt => simp [check_of_filled hv, checkFilled, hgt]

theorem rejects_of_unfilled (hv : v.IsUnfilled) (h : validator.check v = some e) :
    Rejects validator v e := by
  unfold check at h
  rw [if_pos (Json.isEmpty_iff.mpr hv)] at h
  cases validator with
  | required =>
    cases h
    exact .required hv
  | _ => cases h

theorem rejects_of_filled (hv : ¬v.IsUnfilled) (h : validator.checkFilled v = some e) :
    Rejects validator v e := by
  cases validator with
  | required => cases h
  | email =>
    obtain ⟨hany, hsome⟩ := Option.ite_none_left_eq_some.mp h
    cases hsome
    refine .email hv fun s hs => ?_
    subst hs
    exact Bool.not_eq_true _ ▸ hany
  | minLength least =>
    simp only [checkFilled] at h
    split at h
    · next actual hlength =>
      obtain ⟨hlt, hsome⟩ := Option.ite_none_right_eq_some.mp h
      cases hsome
      exact .minLength hv (length?_eq_some_iff.mp hlength) hlt
    · cases h
  | maxLength most =>
    simp only [checkFilled] at h
    split at h
    · next actual hlength =>
      obtain ⟨hlt, hsome⟩ := Option.ite_none_right_eq_some.mp h
      cases hsome
      exact .maxLength hv (length?_eq_some_iff.mp hlength) hlt
    · cases h
  | pattern source regex =>
    simp only [checkFilled] at h
    split at h
    · next text htext =>
      obtain ⟨hmatch, hsome⟩ := Option.ite_none_left_eq_some.mp h
      cases hsome
      exact .pattern hv htext (Bool.not_eq_true _ ▸ hmatch)
    · cases h
  | min b =>
    obtain ⟨hlt, hsome⟩ := Option.ite_none_right_eq_some.mp h
    cases hsome
    exact .min hv hlt
  | max b =>
    obtain ⟨hgt, hsome⟩ := Option.ite_none_right_eq_some.mp h
    cases hsome
    exact .max hv hgt

/-- **What is found is what is rejected.** -/
theorem check_eq_some_iff : validator.check v = some e ↔ Rejects validator v e := by
  refine ⟨fun h => ?_, check_of_rejects⟩
  by_cases hv : v.IsUnfilled
  · exact rejects_of_unfilled hv h
  · exact rejects_of_filled hv (check_of_filled hv validator ▸ h)

/-! ### What the rules of a field demand -/

/-- **The validators that the rules of a field demand.** A field without rules has the rules
that demand nothing. -/
inductive Demands (f : FieldSpec) : Validator → Prop
  | required : (f.rules.getD {}).required = true → Demands f .required
  /-- The kind of the field demands it as well as the rule. -/
  | email : (f.rules.getD {}).email = true ∨ f.kind = .email → Demands f .email
  | minLength {least : Nat} :
    (f.rules.getD {}).minLength = some least → Demands f (.minLength least)
  | maxLength {most : Nat} : (f.rules.getD {}).maxLength = some most → Demands f (.maxLength most)
  /-- The empty pattern demands nothing, and neither does one that cannot be read. -/
  | pattern {p : String} {regex : Regex} :
    (f.rules.getD {}).pattern = some p → p ≠ "" → Regex.parse? (anchored p) = some regex →
      Demands f (.pattern (anchored p) regex)
  /-- A bound has to declare one. -/
  | min {j : Json} {b : Bound} :
    (f.rules.getD {}).min = some j → Bound.Declares j b → Demands f (.min b)
  | max {j : Json} {b : Bound} :
    (f.rules.getD {}).max = some j → Bound.Declares j b → Demands f (.max b)

theorem ofPattern?_eq_some_iff {p : String} :
    ofPattern? p = some validator ↔
      p ≠ "" ∧ ∃ regex, Regex.parse? (anchored p) = some regex ∧
        validator = .pattern (anchored p) regex := by
  rw [ofPattern?, Option.ite_none_left_eq_some, String.isEmpty_iff, Option.map_eq_some_iff]
  simp only [eq_comm (b := validator)]

theorem mem_ofField : validator ∈ ofField f ↔ Demands f validator := by
  have hmem : validator ∈ ofField f ↔
      (f.rules.getD {}).required = true ∧ validator = .required ∨
      ((f.rules.getD {}).email = true ∨ f.kind = .email) ∧ validator = .email ∨
      (∃ n, (f.rules.getD {}).minLength = some n ∧ .minLength n = validator) ∨
      (∃ n, (f.rules.getD {}).maxLength = some n ∧ .maxLength n = validator) ∨
      (∃ p, (f.rules.getD {}).pattern = some p ∧ ofPattern? p = some validator) ∨
      (∃ b, (∃ j, (f.rules.getD {}).min = some j ∧ Bound.ofJson? j = some b) ∧
        .min b = validator) ∨
      ∃ b, (∃ j, (f.rules.getD {}).max = some j ∧ Bound.ofJson? j = some b) ∧
        .max b = validator := by
    simp only [ofField, ofRules, List.mem_append, Option.mem_toList, Option.map_eq_some_iff,
      Option.bind_eq_some_iff, List.mem_ite_nil_right, List.mem_singleton, Bool.or_eq_true,
      decide_eq_true_eq, or_assoc]
  rw [hmem]
  simp only [ofPattern?_eq_some_iff, Bound.ofJson?_eq_some_iff]
  constructor
  · rintro (⟨h, rfl⟩ | ⟨h, rfl⟩ | ⟨n, h, rfl⟩ | ⟨n, h, rfl⟩ | ⟨p, h, hne, regex, hparse, rfl⟩ |
      ⟨b, ⟨j, h, hb⟩, rfl⟩ | ⟨b, ⟨j, h, hb⟩, rfl⟩)
    · exact .required h
    · exact .email h
    · exact .minLength h
    · exact .maxLength h
    · exact .pattern h hne hparse
    · exact .min h hb
    · exact .max h hb
  · intro h
    cases h <;> grind

/-! ### The order of a chain -/

/-- The name of a rule, which is that of its violations. -/
def kind : Validator → String
  | required => "Required"
  | email => "Email"
  | minLength _ => "MinLength"
  | maxLength _ => "MaxLength"
  | pattern _ _ => "Pattern"
  | min _ => "Min"
  | max _ => "Max"

theorem kind_of_rejects (h : Rejects validator v e) : e.kind = validator.kind := by
  cases h <;> rfl

/-- What a chain finds is of the kinds of its validators, in their order. -/
theorem kinds_violations (chain : List Validator) (v : Json) :
    ((violations chain v).map Violation.kind).Sublist (chain.map kind) := by
  induction chain with
  | nil => exact .refl _
  | cons validator chain ih =>
    rw [violations, List.filterMap_cons]
    cases h : validator.check v with
    | none => exact ih.cons _
    | some e =>
      rw [List.map_cons, List.map_cons, kind_of_rejects (check_eq_some_iff.mp h)]
      exact ih.cons_cons _

theorem map_toList_sublist {α β : Type} {g : α → β} {b : β} {o : Option α}
    (h : ∀ a, o = some a → g a = b) : (o.toList.map g).Sublist [b] := by
  cases o with
  | none => exact List.nil_sublist _
  | some a => exact h a rfl ▸ .refl _

/-- **The order of a chain**: first the validator that requires a value, if it is demanded,
and then at most one of each other kind. -/
theorem ofField_eq (f : FieldSpec) :
    ∃ rest, ofField f = (if (f.rules.getD {}).required then [required] else []) ++ rest ∧
      (rest.map kind).Sublist ["Email", "MinLength", "MaxLength", "Pattern", "Min", "Max"] := by
  generalize hrules : f.rules.getD {} = rules
  refine ⟨(if rules.email || f.kind = .email then [email] else [])
    ++ ((rules.minLength.map minLength).toList
    ++ ((rules.maxLength.map maxLength).toList
    ++ ((rules.pattern.bind ofPattern?).toList
    ++ (((rules.min.bind Bound.ofJson?).map min).toList
    ++ ((rules.max.bind Bound.ofJson?).map max).toList)))), ?_, ?_⟩
  · rw [ofField, hrules, ofRules]
    simp only [List.append_assoc]
  · have hemail : ((if rules.email || f.kind = .email then [email] else []).map kind).Sublist
        ["Email"] := by
      split
      · exact .refl _
      · exact List.nil_sublist _
    have hmapped : ∀ (name : String) {α : Type} {g : α → Validator} (o : Option α),
        (∀ a, (g a).kind = name) → ((o.map g).toList.map kind).Sublist [name] := by
      intro name α g o hg
      refine map_toList_sublist fun validator h => ?_
      obtain ⟨a, -, rfl⟩ := Option.map_eq_some_iff.mp h
      exact hg a
    have hpattern : ((rules.pattern.bind ofPattern?).toList.map kind).Sublist ["Pattern"] := by
      refine map_toList_sublist fun validator h => ?_
      obtain ⟨p, -, hp⟩ := Option.bind_eq_some_iff.mp h
      obtain ⟨-, regex, -, rfl⟩ := ofPattern?_eq_some_iff.mp hp
      rfl
    have hmin := hmapped "Min" (g := min) (rules.min.bind Bound.ofJson?) fun _ => rfl
    have hmax := hmapped "Max" (g := max) (rules.max.bind Bound.ofJson?) fun _ => rfl
    simp only [List.map_append]
    exact hemail.append ((hmapped "MinLength" rules.minLength fun _ => rfl).append
      ((hmapped "MaxLength" rules.maxLength fun _ => rfl).append
        (hpattern.append (hmin.append hmax))))

/-! ### Verdicts -/

/-- **What the chain of a field finds in a value.** -/
structure IsVerdict (f : FieldSpec) (v : Json) (errors : List Violation) : Prop where
  /-- A value that is not filled in is missing where it is required, -/
  missing : v.IsUnfilled → (f.rules.getD {}).required = true → errors = [.required]
  /-- and is right where it is not, whatever the other rules say. -/
  optional : v.IsUnfilled → (f.rules.getD {}).required = false → errors = []
  /-- A value that is filled in is not missing, and breaks each other rule at most once, in the
  order of the rules. -/
  ordered : ¬v.IsUnfilled → (errors.map Violation.kind).Sublist
    ["Email", "MinLength", "MaxLength", "Pattern", "Min", "Max"]
  /-- What is found is what validators reject that the rules demand. -/
  found : ∀ e, e ∈ errors ↔ ∃ validator, Demands f validator ∧ Rejects validator v e
  /-- A value is too short if it has a length, and the length is less than the rule wants. -/
  tooShort : ¬v.IsUnfilled → ∀ least actual, .minLength least actual ∈ errors ↔
    (f.rules.getD {}).minLength = some least ∧ v.HasLength actual ∧ actual < least
  /-- A value is too long if it has a length, and the length is more than the rule wants. -/
  tooLong : ¬v.IsUnfilled → ∀ most actual, .maxLength most actual ∈ errors ↔
    (f.rules.getD {}).maxLength = some most ∧ v.HasLength actual ∧ most < actual
  /-- Nothing lies beyond a bound that is none. -/
  unbounded : ∀ j, (∀ b, ¬Bound.Declares j b) →
    ((f.rules.getD {}).min = some j → ∀ text, .min text ∉ errors) ∧
      ((f.rules.getD {}).max = some j → ∀ text, .max text ∉ errors)

theorem mem_violations_iff :
    e ∈ violations (ofField f) v ↔ ∃ validator, Demands f validator ∧ Rejects validator v e := by
  rw [violations, List.mem_filterMap]
  simp only [mem_ofField, check_eq_some_iff]

theorem violations_append (chain chain' : List Validator) (v : Json) :
    violations (chain ++ chain') v = violations chain v ++ violations chain' v :=
  List.filterMap_append

/-- The validator that requires a value, if it is demanded. -/
theorem violations_required (demanded : Bool) (v : Json) :
    violations (if demanded then [required] else []) v =
      if demanded && v.isEmpty then [.required] else [] := by
  cases demanded <;> cases hv : v.isEmpty <;> simp [violations, check, checkFilled, hv]

theorem violations_of_unfilled (f : FieldSpec) (hv : v.IsUnfilled) :
    violations (ofField f) v = if (f.rules.getD {}).required then [.required] else [] := by
  obtain ⟨rest, hchain, hkinds⟩ := ofField_eq f
  have hrest : violations rest v = [] := by
    refine List.filterMap_eq_nil_iff.mpr fun validator hmem => Option.eq_none_iff_forall_ne_some.mpr
      fun e he => ?_
    cases check_eq_some_iff.mp he with
    | required => exact absurd (hkinds.subset (List.mem_map_of_mem hmem)) (by decide)
    | _ => contradiction
  rw [hchain, violations_append, hrest, List.append_nil, violations_required,
    Json.isEmpty_iff.mpr hv, Bool.and_true]

theorem kinds_of_filled (f : FieldSpec) (hv : ¬v.IsUnfilled) :
    ((violations (ofField f) v).map Violation.kind).Sublist
      ["Email", "MinLength", "MaxLength", "Pattern", "Min", "Max"] := by
  obtain ⟨rest, hchain, hkinds⟩ := ofField_eq f
  have hrest : violations (ofField f) v = violations rest v := by
    rw [hchain, violations_append, violations_required, Json.isEmpty_eq_false_iff.mpr hv,
      Bool.and_false, if_neg Bool.false_ne_true, List.nil_append]
  rw [hrest]
  exact (kinds_violations rest v).trans hkinds

/-- **The law of the chain.** For every field and every value, the chain of the field finds
in the value what a verdict says. -/
theorem violations_isVerdict (f : FieldSpec) (v : Json) :
    IsVerdict f v (violations (ofField f) v) where
  missing := fun hv hrequired => by rw [violations_of_unfilled f hv, if_pos hrequired]
  optional := fun hv hrequired => by
    rw [violations_of_unfilled f hv, hrequired, if_neg Bool.false_ne_true]
  ordered := fun hv => kinds_of_filled f hv
  found := fun _ => mem_violations_iff
  tooShort := fun hv least actual => by
    rw [mem_violations_iff]
    constructor
    · rintro ⟨validator, hdemands, hrejects⟩
      cases hrejects with
      | minLength _ hlength hlt =>
        cases hdemands with
        | minLength hrule => exact ⟨hrule, hlength, hlt⟩
    · rintro ⟨hrule, hlength, hlt⟩
      exact ⟨_, .minLength hrule, .minLength hv hlength hlt⟩
  tooLong := fun hv most actual => by
    rw [mem_violations_iff]
    constructor
    · rintro ⟨validator, hdemands, hrejects⟩
      cases hrejects with
      | maxLength _ hlength hlt =>
        cases hdemands with
        | maxLength hrule => exact ⟨hrule, hlength, hlt⟩
    · rintro ⟨hrule, hlength, hlt⟩
      exact ⟨_, .maxLength hrule, .maxLength hv hlength hlt⟩
  unbounded := fun j hj => by
    simp only [mem_violations_iff]
    constructor
    · rintro hmin text ⟨validator, hdemands, hrejects⟩
      cases hrejects
      cases hdemands with
      | min hrule hb => exact hj _ (Option.some.inj (hmin.symm.trans hrule) ▸ hb)
    · rintro hmax text ⟨validator, hdemands, hrejects⟩
      cases hrejects
      cases hdemands with
      | max hrule hb => exact hj _ (Option.some.inj (hmax.symm.trans hrule) ▸ hb)

end Validator

end SmartForm
