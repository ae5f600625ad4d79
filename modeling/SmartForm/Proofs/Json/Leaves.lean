import Mathlib.Data.Nat.Digits.Defs
import Mathlib.Tactic.IntervalCases
import SmartForm.Json.Printer
import SmartForm.Json.Reader

/-!
# Texts and integers are read as they are printed

A text in quotes is read back whatever its characters are
(`SmartForm.Json.quotedText?_quoted`), and an integer is read back if it fits into a word of
either sort (`SmartForm.Json.number?_toString`).

The one thing to know is what may stand behind a number. A digit, a point or an exponent
would be taken for more of it, so the text behind it has to be **apart** from it
(`SmartForm.Json.Apart`): in a printed text there is a comma or a new line, or nothing.
-/

namespace SmartForm

namespace Digits

/-- The digits of a number other than zero do not begin with a zero. -/
theorem head?_toDigits_ne {n : Nat} (hn : 0 < n) : (Nat.toDigits 10 n).head? ≠ some '0' := by
  induction n using Nat.strongRecOn with
  | ind n ih =>
    by_cases hlt : n < 10
    · rw [Nat.toDigits_of_lt_base hlt]
      interval_cases n <;> decide
    · have hhead := ih (n / 10) (Nat.div_lt_self hn (by decide)) (by omega)
      rw [Nat.toDigits_of_base_le (by decide) (Nat.not_lt.mp hlt)]
      cases h : Nat.toDigits 10 (n / 10) with
      | nil => exact absurd h Nat.toDigits_ne_nil
      | cons d ds =>
        rw [h] at hhead
        exact hhead

theorem toDigits_eq_cons (n : Nat) :
    ∃ d ds, Nat.toDigits 10 n = d :: ds ∧ d.isDigit ∧ (d = '0' → ds = []) := by
  cases h : Nat.toDigits 10 n with
  | nil => exact absurd h Nat.toDigits_ne_nil
  | cons d ds =>
    have hmem : d ∈ Nat.toDigits 10 n := h ▸ List.mem_cons_self
    refine ⟨d, ds, rfl, Nat.isDigit_of_mem_toDigits (by decide) (by decide) hmem, fun hd => ?_⟩
    have hn : ¬ 0 < n := fun hn => head?_toDigits_ne hn (by rw [h, hd]; rfl)
    obtain rfl : n = 0 := Nat.eq_zero_of_not_pos hn
    cases h
    rfl

/-- The digits of a number, with what does not go on with a digit behind them. -/
theorem split_toDigits (n : Nat) {rest : List Char} (hrest : ∀ c ∈ rest.head?, c.isDigit = false) :
    split (Nat.toDigits 10 n ++ rest) = (Nat.toDigits 10 n, rest) := by
  have hdigits : ∀ c ∈ Nat.toDigits 10 n, c.isDigit = true := fun c hc =>
    Nat.isDigit_of_mem_toDigits (by decide) (by decide) hc
  have htake : rest.takeWhile Char.isDigit = [] ∧ rest.dropWhile Char.isDigit = rest := by
    cases rest with
    | nil => exact ⟨rfl, rfl⟩
    | cons c rest =>
      have hc : c.isDigit = false := hrest c rfl
      simp [hc]
  rw [split, List.takeWhile_append_of_pos hdigits, List.dropWhile_append_of_pos hdigits, htake.1,
    htake.2, List.append_nil]

end Digits

namespace Json

/-! ### Integers -/

/-- A text may stand behind a number, for it cannot be taken for more of it. -/
def Apart (rest : List Char) : Prop := ∀ c ∈ rest.head?, c = ',' ∨ c = '\n'

theorem le_ofDigitChars (ds : List Char) (n : Nat) : n ≤ Nat.ofDigitChars 10 ds n := by
  induction ds generalizing n with
  | nil => exact Nat.le_refl n
  | cons d ds ih =>
    rw [Nat.ofDigitChars_cons]
    exact Nat.le_trans (by omega) (ih _)

/-- Digits are all taken into the significand if there is room for the number. -/
theorem takeDigits_eq {ds : List Char} {n : Nat}
    (h : Nat.ofDigitChars 10 ds n ≤ significandMax) :
    takeDigits n ds = (Nat.ofDigitChars 10 ds n, 0) := by
  induction ds generalizing n with
  | nil => rfl
  | cons d ds ih =>
    rw [Nat.ofDigitChars_cons] at h
    have hnext : 10 * n + Digits.digit d ≤ significandMax := Nat.le_trans (le_ofDigitChars ds _) h
    rw [takeDigits, if_pos hnext, Nat.ofDigitChars_cons]
    exact ih h

theorem takeDigits_toDigits {n : Nat} (hn : n ≤ significandMax) :
    takeDigits 0 (Nat.toDigits 10 n) = (n, 0) := by
  have hvalue : Nat.ofDigitChars 10 (Nat.toDigits 10 n) 0 = n := Nat.ofDigitChars_ten_toDigits
  rw [takeDigits_eq (by rwa [hvalue]), hvalue]

/-- **An integer without a sign is read** up to a text that is apart from it. -/
theorem number?_toDigits (negative : Bool) (n : Nat) {rest : List Char} (hrest : Apart rest) :
    number? (if negative then '-' :: (Nat.toDigits 10 n ++ rest) else Nat.toDigits 10 n ++ rest) =
      some (numberOf negative (Nat.toDigits 10 n) none none, rest) := by
  obtain ⟨d, ds, hdigits, hd, hzero⟩ := Digits.toDigits_eq_cons n
  have hbefore : ∀ c ∈ rest.head?, c.isDigit = false := fun c hc => by
    rcases hrest c hc with rfl | rfl <;> decide
  have hsplit := Digits.split_toDigits n hbefore
  have hfraction : fraction? rest = some (none, rest) := by
    cases rest with
    | nil => rfl
    | cons c rest => rcases hrest c rfl with rfl | rfl <;> rfl
  have hexponent : exponent? rest = some (none, rest) := by
    cases rest with
    | nil => rfl
    | cons c rest => rcases hrest c rfl with rfl | rfl <;> rfl
  -- A digit is no sign, and only the number zero begins with a zero.
  have hsign : ∀ tail, d :: (ds ++ rest) ≠ '-' :: tail := by
    intro tail heq
    rw [(List.cons.inj heq).1] at hd
    exact absurd hd (by decide)
  have hlead : ∀ e es, d :: ds ≠ '0' :: e :: es := by
    intro e es heq
    cases hzero (List.cons.inj heq).1
    cases (List.cons.inj heq).2
  rw [hdigits] at hsplit ⊢
  rw [List.cons_append] at hsplit ⊢
  unfold number?
  cases negative with
  | true => simp only [if_true, hsplit, hfraction, hexponent]
  | false => simp only [Bool.false_eq_true, if_false, hsplit, hfraction, hexponent]

theorem toList_ofNat (n : Nat) : (toString (Int.ofNat n)).toList = Nat.toDigits 10 n := by
  rw [Int.toString_eq_repr, Int.repr, Nat.repr_eq_ofList_toDigits, String.toList_ofList]

theorem toList_negSucc (n : Nat) :
    (toString (Int.negSucc n)).toList = '-' :: Nat.toDigits 10 (n + 1) := by
  have hsign : "-".toList = ['-'] := rfl
  rw [Int.toString_eq_repr, Int.repr, Nat.repr_eq_ofList_toDigits, String.toList_append, hsign,
    String.toList_ofList]
  rfl

theorem fitsEither_iff {i : Int} :
    Word.fitsEither i = true ↔ -(2 ^ 63 : Int) ≤ i ∧ i < 2 ^ 64 := by
  rw [Word.fitsEither, Bool.and_eq_true, decide_eq_true_iff, decide_eq_true_iff]
  rfl

/-- **An integer is read as it is printed**, if it fits into a word of either sort. -/
theorem number?_toString {i : Int} (hi : Word.fitsEither i = true) {rest : List Char}
    (hrest : Apart rest) :
    number? ((toString i).toList ++ rest) = some (some (.int i), rest) := by
  have hmax : significandMax = 2 ^ 64 - 1 := rfl
  have hhalf : Word.half = 2 ^ 63 := rfl
  obtain ⟨hlow, hhigh⟩ := fitsEither_iff.mp hi
  cases i with
  | ofNat n =>
    have hn : n ≤ significandMax := by
      rw [Int.ofNat_eq_natCast] at hhigh
      omega
    have hread := number?_toDigits false n hrest
    rw [numberOf, takeDigits_toDigits hn] at hread
    rw [toList_ofNat]
    exact hread
  | negSucc n =>
    have hn : n + 1 ≤ 2 ^ 63 := by
      rw [Int.negSucc_eq] at hlow
      omega
    have hread := number?_toDigits true (n + 1) hrest
    rw [numberOf, takeDigits_toDigits (by omega)] at hread
    have hnonzero : ¬ (n + 1 = 0 ∨ Word.half < n + 1) := by omega
    simp only [if_true, if_neg hnonzero] at hread
    rw [toList_negSucc]
    exact hread

theorem toString_eq_cons (i : Int) :
    ∃ c cs, (toString i).toList = c :: cs ∧ (c = '-' ∨ c.isDigit = true) := by
  cases i with
  | ofNat n =>
    obtain ⟨d, ds, hdigits, hd, -⟩ := Digits.toDigits_eq_cons n
    exact ⟨d, ds, (toList_ofNat n).trans hdigits, Or.inr hd⟩
  | negSucc n => exact ⟨'-', Nat.toDigits 10 (n + 1), toList_negSucc n, Or.inl rfl⟩

/-- What an integer begins with is nothing but a sign or a digit. -/
theorem ne_of_leading {c d : Char} (hc : c = '-' ∨ c.isDigit = true) (hminus : d ≠ '-')
    (hdigit : d.isDigit = false) : c ≠ d := by
  rintro rfl
  rcases hc with rfl | hc
  · exact hminus rfl
  · rw [hdigit] at hc
    cases hc

theorem isBlank_of_leading {c : Char} (hc : c = '-' ∨ c.isDigit = true) : isBlank c = false := by
  have hspace : c ≠ ' ' := ne_of_leading hc (by decide) rfl
  have hline : c ≠ '\n' := ne_of_leading hc (by decide) rfl
  have htab : c ≠ '\t' := ne_of_leading hc (by decide) rfl
  have hreturn : c ≠ '\r' := ne_of_leading hc (by decide) rfl
  simp [isBlank, hspace, hline, htab, hreturn]

/-! ### Texts in quotes -/

/-- The two hexadecimal digits of a control character. -/
theorem value?_hexDigits : ∀ n < 32,
    Digits.value? 16 ['0', '0', hexDigit (n / 16), hexDigit (n % 16)] = some n := by decide

/-- A character that is not escaped. -/
theorem quotedBody?_plain (fuel : Nat) (done : List Char) {c : Char} (rest : List Char)
    (hquote : c ≠ '"') (hslash : c ≠ '\\') (hcontrol : ¬ c.toNat < 32) :
    quotedBody? (fuel + 1) done true none (c :: rest) =
      quotedBody? fuel (c :: done) true none rest := by
  rw [quotedBody?]
  · simp [hquote, hslash, hcontrol]
  · exact fun _ hc _ => hslash hc
  · exact fun _ _ hc _ => hslash hc

/-- A control character that is written by its number. -/
theorem quotedBody?_control (fuel : Nat) (done : List Char) {c : Char} (rest : List Char)
    (hcontrol : c.toNat < 32) :
    quotedBody? (fuel + 1) done true none
        (['\\', 'u', '0', '0', hexDigit (c.toNat / 16), hexDigit (c.toNat % 16)] ++ rest) =
      quotedBody? fuel (c :: done) true none rest := by
  have hunit : hexUnit? ('0' :: '0' :: hexDigit (c.toNat / 16) :: hexDigit (c.toNat % 16) :: rest) =
      some (c.toNat, rest) := by
    rw [hexUnit?, value?_hexDigits c.toNat hcontrol]
    rfl
  have hhigh : ¬ (0xD800 ≤ c.toNat ∧ c.toNat < 0xDC00) := by omega
  have hlow : ¬ (0xDC00 ≤ c.toNat ∧ c.toNat < 0xE000) := by omega
  simp only [List.cons_append, List.nil_append, quotedBody?, hunit, if_neg hhigh, if_neg hlow,
    Char.ofNat_toNat, Option.isNone_none, Bool.and_self]

/-- **A character is read as it is written in a quoted text.** -/
theorem quotedBody?_quotedChar (fuel : Nat) (done : List Char) (c : Char) (rest : List Char) :
    quotedBody? (fuel + 1) done true none (quotedChar c ++ rest) =
      quotedBody? fuel (c :: done) true none rest := by
  rw [quotedChar]
  split_ifs with hquote hslash hline hreturn htab hback hfeed hcontrol
  · rw [hquote]; rfl
  · rw [hslash]; rfl
  · rw [hline]; rfl
  · rw [hreturn]; rfl
  · rw [htab]; rfl
  · rw [hback]; rfl
  · rw [hfeed]; rfl
  · exact quotedBody?_control fuel done rest hcontrol
  · exact quotedBody?_plain fuel done rest hquote hslash hcontrol

theorem quotedBody?_flatMap {fuel : Nat} (done cs rest : List Char) (hfuel : cs.length < fuel) :
    quotedBody? fuel done true none (cs.flatMap quotedChar ++ '"' :: rest) =
      some (some (String.ofList (done.reverse ++ cs)), rest) := by
  induction cs generalizing fuel done with
  | nil =>
    obtain ⟨fuel, rfl⟩ := Nat.exists_eq_add_of_lt hfuel
    simp [quotedBody?]
  | cons c cs ih =>
    obtain ⟨fuel, rfl⟩ : ∃ n, fuel = n + 1 :=
      Nat.exists_eq_succ_of_ne_zero (Nat.ne_zero_of_lt hfuel)
    rw [List.flatMap_cons, List.append_assoc, quotedBody?_quotedChar,
      ih (c :: done) (Nat.lt_of_succ_lt_succ hfuel)]
    simp

theorem length_le_flatMap_quotedChar (cs : List Char) :
    cs.length ≤ (cs.flatMap quotedChar).length := by
  have hone : ∀ c, 1 ≤ (quotedChar c).length := by
    intro c
    rw [quotedChar]
    split_ifs <;> simp
  induction cs with
  | nil => exact Nat.le_refl 0
  | cons c cs ih =>
    have hc := hone c
    rw [List.flatMap_cons, List.length_append, List.length_cons]
    omega

/-- **A text is read as it is written in quotes.** -/
theorem quotedText?_quoted (s : String) (rest : List Char) :
    quotedText? (s.toList.flatMap quotedChar ++ '"' :: rest) = some (some s, rest) := by
  have hfuel : s.toList.length < (s.toList.flatMap quotedChar ++ '"' :: rest).length + 1 := by
    have hlength := length_le_flatMap_quotedChar s.toList
    rw [List.length_append]
    omega
  rw [quotedText?, quotedBody?_flatMap [] s.toList rest hfuel]
  simp

end Json

end SmartForm
