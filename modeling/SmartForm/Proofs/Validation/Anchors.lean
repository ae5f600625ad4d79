import SmartForm.Proofs.Pattern.Anchors
import SmartForm.Validation.Validator

/-!
# Patterns of fields and whole values

The validator of a pattern is to accept the values that the pattern matches as a whole.
Since it searches for a match anywhere, anchors are put into the text of the pattern, where
none stand already (`SmartForm.Validator.anchored_eq`). That does what is expected where the
pattern is one branch (`SmartForm.Validator.accepts_iff_matchesWhole`): groups, classes,
escapes, repetitions, directives and anchors of its own do no harm.

An alternative outside of groups does, because each anchor belongs to one branch alone
(`SmartForm.Validator.alternative_accepts_more`).
-/

namespace SmartForm

namespace Validator

open Regex

/-! ### The text of an anchored pattern -/

/-- A pattern without a circumflex at its start and without a dollar sign at its end. -/
def core (cs : List Char) : List Char :=
  let cs := (optionalMark '^' cs).2
  if cs.getLast? = some '$' then cs.dropLast else cs

theorem endsWith_iff {pat s : String} : s.endsWith pat = true ↔ pat.toList <:+ s.toList := by
  rw [String.endsWith_eq_endsWith_toSlice, String.Slice.endsWith_string_iff,
    String.copy_toSlice]

theorem singleton_suffix_iff {c : Char} {cs : List Char} :
    [c] <:+ cs ↔ cs.getLast? = some c := by
  rw [List.getLast?_eq_some_iff]
  exact ⟨fun ⟨front, h⟩ => ⟨front, h.symm⟩, fun ⟨front, h⟩ => ⟨front, h.symm⟩⟩

/-- A dollar sign is taken off the end where one stands there. -/
theorem withoutDollar_append {cs : List Char} {dollar : Bool}
    (h : dollar = true ↔ cs.getLast? = some '$') :
    (if cs.getLast? = some '$' then cs.dropLast else cs) ++ (if dollar then ['$'] else []) =
      cs := by
  by_cases hd : cs.getLast? = some '$'
  · obtain ⟨front, rfl⟩ := List.getLast?_eq_some_iff.mp hd
    rw [if_pos hd, if_pos (h.mpr hd), List.dropLast_concat]
  · rw [if_neg hd, if_neg fun hdollar => hd (h.mp hdollar), List.append_nil]

/-- Nothing but the marks at its ends is taken from a pattern. -/
theorem marked_core (p : String) :
    marked (p.startsWith "^") (p.endsWith "$") (core p.toList) = p.toList := by
  have hdollar : p.endsWith "$" = true ↔ p.toList.getLast? = some '$' :=
    endsWith_iff.trans singleton_suffix_iff
  have hcaret : p.startsWith "^" = true ↔ ∃ inner, p.toList = '^' :: inner := by
    rw [String.startsWith_string_iff]
    exact ⟨fun ⟨inner, h⟩ => ⟨inner, h.symm⟩, fun ⟨inner, h⟩ => ⟨inner, h.symm⟩⟩
  generalize p.startsWith "^" = caret at hcaret ⊢
  generalize p.endsWith "$" = dollar at hdollar ⊢
  generalize p.toList = cs at hcaret hdollar ⊢
  by_cases hc : ∃ inner, cs = '^' :: inner
  · obtain ⟨inner, rfl⟩ := hc
    have hinner : dollar = true ↔ inner.getLast? = some '$' := by
      rw [hdollar, List.getLast?_cons]
      cases inner.getLast? with
      | none => decide
      | some c => simp
    rw [marked, if_pos (hcaret.mpr ⟨inner, rfl⟩), List.append_assoc]
    exact congrArg ('^' :: ·) (withoutDollar_append hinner)
  · have hmark : optionalMark '^' cs = (false, cs) := by
      cases cs with
      | nil => rfl
      | cons c cs => exact if_neg fun heq => hc ⟨cs, by rw [heq]⟩
    rw [marked, if_neg fun h => hc (hcaret.mp h), List.nil_append, core, hmark]
    exact withoutDollar_append hdollar

/-- **Both anchors stand around what is left of a pattern without them.** -/
theorem anchored_eq (p : String) :
    anchored p = String.ofList (marked true true (core p.toList)) := by
  have hp : String.ofList (marked (p.startsWith "^") (p.endsWith "$") (core p.toList)) = p := by
    rw [marked_core, String.ofList_toList]
  rw [anchored]
  generalize core p.toList = cs at hp ⊢
  generalize p.startsWith "^" = caret at hp ⊢
  generalize p.endsWith "$" = dollar at hp ⊢
  subst hp
  cases caret <;> cases dollar <;>
    simp [marked, String.ofList_append, String.append_assoc]

/-! ### The validator of a pattern -/

theorem mem_ofField_iff {f : FieldSpec} {source : String} {regex : Regex} :
    pattern source regex ∈ ofField f ↔
      ∃ p, (f.rules.getD {}).pattern = some p ∧ p ≠ "" ∧ source = anchored p ∧
        Regex.parse? (anchored p) = some regex := by
  generalize hrules : f.rules.getD {} = rules
  have hmem : pattern source regex ∈ ofField f ↔
      rules.pattern.bind ofPattern? = some (pattern source regex) := by
    rw [ofField, hrules, ofRules]
    simp [Option.map_eq_some_iff, Option.bind_eq_some_iff]
  rw [hmem, Option.bind_eq_some_iff]
  refine exists_congr fun p => and_congr_right fun _ => ?_
  rw [Validator.ofPattern?]
  by_cases hp : p = ""
  · simp [hp]
  · have hempty : p.isEmpty = false := String.isEmpty_eq_false_iff.mpr hp
    simp [hp, hempty, and_comm, eq_comm]

theorem check_pattern {source text : String} (regex : Regex) (h : text ≠ "") :
    (pattern source regex).check (.string text) =
      if regex.isMatch text then none else some (.pattern source) := by
  have hfilled : (Json.string text).isEmpty = false := String.isEmpty_eq_false_iff.mpr h
  simp [check, hfilled, checkFilled, Json.scalarText?]

theorem ofPattern?_core (p : String) :
    Regex.ofPattern? (String.ofList
      (marked (p.startsWith "^") (p.endsWith "$") (core p.toList))) = Regex.ofPattern? p := by
  rw [marked_core, String.ofList_toList]

theorem parse?_eq_some_iff {p : String} {r : Regex} :
    Regex.parse? p = some r ↔
      ∃ t, Regex.ofPattern? p = some t ∧ isAccepted t = true ∧ t.val = r := by
  simp only [Regex.parse?, Option.map_eq_some_iff, Option.filter_eq_some_iff, and_assoc]

/-- **A pattern that is one branch between its anchors is matched against the whole value.**
The chain of the field holds a validator of it, unless the pattern is so large, or nested so
deeply, that the anchors do not fit in. -/
theorem accepts_iff_matchesWhole {f : FieldSpec} {p : String} {r : Regex}
    (hp : (f.rules.getD {}).pattern = some p) (hne : p ≠ "") (hr : Regex.parse? p = some r)
    (hbranch : isBranch (core p.toList) = true) :
    (∀ source regex, pattern source regex ∈ ofField f → ∀ text, text ≠ "" →
      ((pattern source regex).check (.string text) = none ↔ r.MatchesWhole text) ∧
      ((pattern source regex).check (.string text) = some (.pattern (anchored p)) ↔
        ¬r.MatchesWhole text)) ∧
    ∀ t, Regex.ofPattern? p = some t → isAccepted (between t) = true →
      ∃ regex, pattern (anchored p) regex ∈ ofField f := by
  have hcore := ofPattern?_core p
  constructor
  · intro source regex hmem text htext
    obtain ⟨p', hp', -, rfl, hregex⟩ := mem_ofField_iff.mp hmem
    obtain rfl : p = p' := Option.some.inj (hp.symm.trans hp')
    obtain ⟨t, ht, -, rfl⟩ := parse?_eq_some_iff.mp hr
    obtain ⟨t', ht', -, rfl⟩ := parse?_eq_some_iff.mp hregex
    rw [anchored_eq] at ht'
    have hmatch := isMatch_marked_iff hbranch (hcore.trans ht) ht' text
    rw [check_pattern t'.val htext, ← hmatch]
    cases t'.val.isMatch text <;> simp
  · intro t ht hroom
    obtain ⟨read, hread⟩ := exists_items_of_isBranch hbranch
    have haccepted := isAccepted_marked hbranch (hcore.trans ht) (hread true true) hroom
    have hparse := hread true true
    rw [← anchored_eq] at hparse
    exact ⟨_, mem_ofField_iff.mpr
      ⟨p, hp, hne, rfl, parse?_eq_some_iff.mpr ⟨_, hparse, haccepted, rfl⟩⟩⟩

/-- A field whose values have to match a pattern. -/
def patternField (p : String) : FieldSpec := { key := "code", rules := some { pattern := some p } }

/-- The expression of the pattern `(a|b\.)+[0-9]$`. -/
def codeRegex : Regex :=
  .cat
    (.rep 1 none (.group (.alt (.chars [(97, 97)])
      (.cat (.chars [(98, 98)]) (.chars [(46, 46)])))))
    (.cat (.chars [(48, 57)]) (.look .textEnd))

/-- Alternatives inside a group, an escape and an anchor of its own do a pattern no harm. -/
theorem accepts_iff_matchesWhole_code :
    Regex.parse? "(a|b\\.)+[0-9]$" = some codeRegex ∧
      isBranch (core "(a|b\\.)+[0-9]$".toList) = true ∧
      ∃ regex, pattern "^(a|b\\.)+[0-9]$" regex ∈ ofField (patternField "(a|b\\.)+[0-9]$") ∧
        (pattern "^(a|b\\.)+[0-9]$" regex).check (.string "ab.7") = none ∧
        (pattern "^(a|b\\.)+[0-9]$" regex).check (.string "b7") =
          some (.pattern "^(a|b\\.)+[0-9]$") := by
  have hparse : Regex.parse? "(a|b\\.)+[0-9]$" = some codeRegex := by decide +kernel
  have hbranch : isBranch (core "(a|b\\.)+[0-9]$".toList) = true := by decide +kernel
  obtain ⟨haccepts, hchain⟩ := accepts_iff_matchesWhole
    (f := patternField "(a|b\\.)+[0-9]$") rfl (by decide) hparse hbranch
  have hsource : anchored "(a|b\\.)+[0-9]$" = "^(a|b\\.)+[0-9]$" := by decide +kernel
  have hread : Regex.ofPattern? "(a|b\\.)+[0-9]$" = some ⟨codeRegex, 5⟩ := by decide +kernel
  obtain ⟨regex, hmem⟩ := hchain _ hread (by decide +kernel)
  rw [hsource] at haccepts hmem
  exact ⟨hparse, hbranch, regex, hmem,
    (haccepts _ regex hmem "ab.7" (by decide)).1.mpr (by decide +kernel),
    (haccepts _ regex hmem "b7" (by decide)).2.mpr (by decide +kernel)⟩

/-- **An alternative outside of groups accepts more than it should**: the circumflex belongs
to the first branch alone, and the dollar sign to the last one. -/
theorem alternative_accepts_more :
    ∃ r regex, Regex.parse? "a|b" = some r ∧
      pattern "^a|b$" regex ∈ ofField (patternField "a|b") ∧
      (pattern "^a|b$" regex).check (.string "ax") = none ∧ ¬r.MatchesWhole "ax" := by
  refine ⟨.alt (.chars [(97, 97)]) (.chars [(98, 98)]),
    .alt (.cat (.look .textStart) (.chars [(97, 97)]))
      (.cat (.chars [(98, 98)]) (.look .textEnd)),
    by decide +kernel, ?_, by decide +kernel, by decide +kernel⟩
  exact mem_ofField_iff.mpr ⟨"a|b", rfl, by decide, by decide +kernel, by decide +kernel⟩

end Validator

end SmartForm
