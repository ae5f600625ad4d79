import SmartForm.Proofs.Json.Leaves
import SmartForm.Proofs.Number.Nearest
import SmartForm.Proofs.Text.Words
import SmartForm.Proofs.Validation.Chain

/-!
# Bounds that are whole numbers

A bound and a value may both stand for whole numbers, each as a number or as the text that
writes it (`SmartForm.Json.StandsFor`). Whichever it is, what is compared is the nearest
double, so a value lies beyond its bound if it does as a whole number and the two do not merge
(`SmartForm.Validator.bounds_exact_unless_merged`).

The one thing to know is that the two ways of writing a number are rounded in two places, and
that nothing comes of it: the text of a whole number has neither a point nor an exponent, so
what is read from it is rounded as the number is (`SmartForm.Double.parse?_toString`).

A value that keeps its bound is never rejected. One that does not is let pass only if both are
beyond fifty-three bits and close to each other, as the first such number is
(`SmartForm.Validator.bound_misses_neighbour`).
-/

namespace SmartForm

/-! ### Whole numbers as texts -/

namespace Text

/-- What a whole number is written with is no blank. -/
theorem isBlank_of_numeral {c : Char} (hc : c = '-' ∨ c.isDigit = true) : isBlank c = false := by
  have hbounds : 45 ≤ c.toNat ∧ c.toNat ≤ 57 := by
    rcases hc with rfl | hc
    · decide
    · have hzero : '0'.toNat = 48 := rfl
      have hnine : '9'.toNat = 57 := rfl
      have hdigit := Char.isDigit_iff_toNat.mp hc
      omega
  simp only [isBlank, Bool.or_eq_false_iff, Bool.and_eq_false_iff, decide_eq_false_iff_not]
  omega

theorem trim_toString (i : Int) : trim (toString i) = toString i := by
  refine trim_of_not_blank fun c hc => isBlank_of_numeral ?_
  have hdigit : ∀ n, c ∈ Nat.toDigits 10 n → c.isDigit = true := fun n hc =>
    Nat.isDigit_of_mem_toDigits (by decide) (by decide) hc
  cases i with
  | ofNat n => exact .inr (hdigit n (Json.toList_ofNat n ▸ hc))
  | negSucc n =>
    rw [Json.toList_negSucc] at hc
    exact (List.mem_cons.mp hc).imp id (hdigit (n + 1))

end Text

namespace Double

theorem ofDecimal_zero (negative : Bool) (n : Nat) :
    ofDecimal negative n 0 = ofRatio negative n 1 := by
  by_cases hn : n = 0
  · subst hn
    cases negative <;> decide +kernel
  · simp [ofDecimal, hn]

theorem parseMagnitude?_toDigits (negative : Bool) (n : Nat) :
    parseMagnitude? negative (Nat.toDigits 10 n) = some (ofRatio negative n 1) := by
  have hsplit : Digits.split (Nat.toDigits 10 n ++ []) = (Nat.toDigits 10 n, []) :=
    Digits.split_toDigits n nofun
  have hvalue : Digits.value (Nat.toDigits 10 n) = n := Nat.ofDigitChars_ten_toDigits
  have hne : (Nat.toDigits 10 n).isEmpty = false :=
    List.isEmpty_eq_false_iff.mpr Nat.toDigits_ne_nil
  rw [List.append_nil] at hsplit
  simp [parseMagnitude?, hsplit, hne, parseExponent?, hvalue, ofDecimal_zero]

/-- **The text of a whole number is rounded as the number is.** -/
theorem parse?_toString (i : Int) : parse? (toString i) = some (ofInt i) := by
  cases i with
  | ofNat n =>
    obtain ⟨d, ds, hdigits, hd, -⟩ := Digits.toDigits_eq_cons n
    have hminus : d ≠ '-' := by rintro rfl; cases hd
    have hplus : d ≠ '+' := by rintro rfl; cases hd
    have hread := parseMagnitude?_toDigits false n
    have hint : ofInt (n : Int) = ofRatio false n 1 := by
      rw [ofInt, decide_eq_false (Int.not_lt.mpr (Int.natCast_nonneg n)), Int.natAbs_natCast]
    rw [hdigits] at hread
    unfold parse?
    rw [Json.toList_ofNat, hdigits]
    split
    next hsign =>
      split at hsign
      · next heq => exact absurd (List.cons.inj heq).1 hminus
      · next heq => exact absurd (List.cons.inj heq).1 hplus
      · cases hsign
        rw [hread, Option.orElse_some]
        exact congrArg some hint.symm
  | negSucc n =>
    have hread := parseMagnitude?_toDigits true (n + 1)
    have hint : ofInt (Int.negSucc n) = ofRatio true (n + 1) 1 := by
      rw [ofInt, decide_eq_true (Int.negSucc_lt_zero n), Int.natAbs_negSucc]
    simp only [parse?, Json.toList_negSucc, hread, hint, Option.orElse_some]

/-- **Whole numbers are compared as they are**, unless they merge. -/
theorem compare_ofInt {i j : Int} (hi : i.natAbs ≤ Word.greatest) (hj : j.natAbs ≤ Word.greatest) :
    ((ofInt i).compare (ofInt j) = some .lt ↔ i < j ∧ ¬ Merge i j) ∧
      ((ofInt i).compare (ofInt j) = some .gt ↔ j < i ∧ ¬ Merge i j) := by
  obtain ⟨m, a, ha, hia⟩ := exists_ofInt hi
  obtain ⟨n, b, hb, hjb⟩ := exists_ofInt hj
  rw [ha, hb, compare, Option.some.injEq, Option.some.injEq, compare_lt_iff_lt, compare_gt_iff_gt,
    hia.lt_iff hjb, hjb.lt_iff hia]
  exact ⟨Iff.rfl, and_congr_right fun _ => not_congr ⟨Merge.symm, Merge.symm⟩⟩

end Double

/-! ### Values and bounds -/

/-- **A value stands for a whole number**: it is that number, or the text that writes it. -/
inductive Json.StandsFor : Json → Int → Prop
  | number (i : Int) : StandsFor (.int i) i
  | text (i : Int) : StandsFor (.string (toString i)) i

namespace Json.StandsFor

variable {v : Json} {i : Int}

theorem not_isUnfilled (h : v.StandsFor i) : ¬v.IsUnfilled := by
  cases h with
  | number => exact nofun
  | text =>
    obtain ⟨c, cs, htext, -⟩ := Json.toString_eq_cons i
    rw [← Json.isEmpty_iff]
    intro hempty
    rw [String.isEmpty_iff.mp hempty] at htext
    cases htext

/-- The nearest double is what is compared with a bound, -/
theorem compare? (h : v.StandsFor i) (d : Double) :
    (Bound.number d).compare? v = (Double.ofInt i).compare d := by
  cases h with
  | number => rfl
  | text => rw [Bound.compare?, Text.trim_toString, Double.parse?_toString, Option.bind_some]

/-- and is the bound that is declared. -/
theorem declares (h : v.StandsFor i) (hfinite : (Double.ofInt i).isFinite = true) :
    Bound.Declares v (.number (.ofInt i)) := by
  cases h with
  | number => exact .number hfinite
  | text =>
    refine .numeral ?_ hfinite
    rw [Text.trim_toString, Double.parse?_toString]

end Json.StandsFor

namespace Validator

variable {v b : Json} {i j : Int} {w w' : Bound} {f : FieldSpec}

/-- A lower bound makes one validator. -/
theorem min_mem_ofField_iff (hrule : (f.rules.getD {}).min = some b) (hb : Bound.Declares b w) :
    .min w' ∈ ofField f ↔ w' = w := by
  rw [mem_ofField]
  constructor
  · intro h
    cases h with
    | min hrule' hb' =>
      obtain rfl := Option.some.inj (hrule.symm.trans hrule')
      exact hb'.unique hb
  · exact fun h => h ▸ .min hrule hb

/-- An upper bound makes one validator. -/
theorem max_mem_ofField_iff (hrule : (f.rules.getD {}).max = some b) (hb : Bound.Declares b w) :
    .max w' ∈ ofField f ↔ w' = w := by
  rw [mem_ofField]
  constructor
  · intro h
    cases h with
    | max hrule' hb' =>
      obtain rfl := Option.some.inj (hrule.symm.trans hrule')
      exact hb'.unique hb
  · exact fun h => h ▸ .max hrule hb

theorem check_min_iff (hv : ¬v.IsUnfilled) :
    (min w).check v = some (.min w.text) ↔ w.compare? v = some .lt := by
  rw [check_eq_some_iff]
  exact ⟨fun h => by cases h with | min _ hlt => exact hlt, .min hv⟩

theorem check_max_iff (hv : ¬v.IsUnfilled) :
    (max w).check v = some (.max w.text) ↔ w.compare? v = some .gt := by
  rw [check_eq_some_iff]
  exact ⟨fun h => by cases h with | max _ hgt => exact hgt, .max hv⟩

theorem natAbs_le_greatest (hi : Word.fitsEither i = true) : i.natAbs ≤ Word.greatest := by
  have hgreatest : Word.greatest = 2 ^ 64 - 1 := rfl
  obtain ⟨hlow, hhigh⟩ := Json.fitsEither_iff.mp hi
  omega

/-- **Bounds that are whole numbers are exact, unless value and bound merge.** Let a value
stand for a number `i` and a bound for a number `j`, both of them words. A lower bound makes
one validator, and that rejects the value if and only if `i < j` and the two do not merge; an
upper bound makes one, and that rejects it if and only if `j < i` and they do not merge. Two
different numbers merge only if both have more than fifty-three bits and they are no more than
the largest spacing apart. -/
theorem bounds_exact_unless_merged (hi : Word.fitsEither i = true)
    (hj : Word.fitsEither j = true) (hv : v.StandsFor i) (hb : b.StandsFor j) (f : FieldSpec) :
    ((f.rules.getD {}).min = some b →
      ∃ w, (∀ w', .min w' ∈ ofField f ↔ w' = w) ∧
        ((min w).check v = some (.min w.text) ↔ i < j ∧ ¬ Double.Merge i j)) ∧
    ((f.rules.getD {}).max = some b →
      ∃ w, (∀ w', .max w' ∈ ofField f ↔ w' = w) ∧
        ((max w).check v = some (.max w.text) ↔ j < i ∧ ¬ Double.Merge i j)) ∧
    (Double.Merge i j →
      i = j ∨ 2 ^ 53 ≤ i.natAbs ∧ 2 ^ 53 ≤ j.natAbs ∧ (i - j).natAbs ≤ 2 ^ 11) := by
  have hi := natAbs_le_greatest hi
  have hj := natAbs_le_greatest hj
  obtain ⟨hlt, hgt⟩ := Double.compare_ofInt hi hj
  obtain ⟨negative, grains, hfinite, -⟩ := Double.exists_ofInt hj
  have hbound := hb.declares (by rw [hfinite]; rfl)
  have hfilled := hv.not_isUnfilled
  refine ⟨fun hrule => ⟨_, fun _ => min_mem_ofField_iff hrule hbound, ?_⟩,
    fun hrule => ⟨_, fun _ => max_mem_ofField_iff hrule hbound, ?_⟩, fun hmerge => ?_⟩
  · rw [check_min_iff hfilled, hv.compare?, hlt]
  · rw [check_max_iff hfilled, hv.compare?, hgt]
  · by_contra hne
    obtain ⟨hne, hlarge⟩ := not_or.mp hne
    refine hlarge ⟨?_, ?_, hmerge.near hi hj⟩
    · exact Nat.not_lt.mp fun hsmall => hne (hmerge.eq_of_lt hsmall)
    · exact Nat.not_lt.mp fun hsmall => hne (hmerge.symm.eq_of_lt hsmall).symm

/-- A field that wants at least the first number that is no double, and writes it out. -/
def serialField : FieldSpec where
  key := "serial"
  kind := .number
  rules := some { min := some (.string "9007199254740993") }

/-- The last number of fifty-three bits is rejected. -/
theorem bounds_exact_unless_merged_serial :
    ∃ w, (∀ w', .min w' ∈ ofField serialField ↔ w' = w) ∧
      (min w).check (.int 9007199254740991) = some (.min w.text) := by
  have hb : (Json.string "9007199254740993").StandsFor 9007199254740993 := .text 9007199254740993
  obtain ⟨hmin, -, hmerge⟩ := bounds_exact_unless_merged (by decide) (by decide)
    (Json.StandsFor.number 9007199254740991) hb serialField
  obtain ⟨w, hw, hcheck⟩ := hmin rfl
  refine ⟨w, hw, hcheck.mpr ⟨by decide, fun h => ?_⟩⟩
  exact absurd (hmerge h) (by decide)

/-- **A value below its bound may pass**: the number before the bound has one nearest double
with it. -/
theorem bound_misses_neighbour :
    ∃ w, .min w ∈ ofField serialField ∧ (min w).check (.int 9007199254740992) = none ∧
      (9007199254740992 : Int) < 9007199254740993 := by
  have hb : (Json.string "9007199254740993").StandsFor 9007199254740993 := .text 9007199254740993
  have hbound := hb.declares (by decide +kernel)
  exact ⟨_, (min_mem_ofField_iff rfl hbound).mpr rfl, by decide +kernel, by decide⟩

end Validator

end SmartForm
