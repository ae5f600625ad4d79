import Mathlib.Data.List.Induction
import Mathlib.Data.List.TakeWhile
import SmartForm.Text.Blank

/-!
# Blanks and words

A text whose blanks are taken off both ends is empty only if there was nothing but blanks in
it (`SmartForm.Text.trim_eq_empty_iff`).

A text is cut at every blank, so what stands on one side of a blank has nothing to do with
what stands on the other (`SmartForm.Text.wordChars_append_blank`). It follows that words
with single spaces between them are found again when the text is cut
(`SmartForm.Text.wordChars_intercalate`), and that the blanks at the ends of a text make no
difference to its words (`SmartForm.Text.wordChars_trimChars`).

Texts that are equal when the case of their letters is ignored differ in letters only: what
they hold besides, blanks included, is the same in both (`SmartForm.Text.eq_or_letters`).
-/

namespace SmartForm

namespace Text

/-! ### Blanks at the ends -/

theorem trimChars_eq_nil_iff {cs : List Char} : trimChars cs = [] ↔ ∀ c ∈ cs, isBlank c := by
  rw [trimChars, trimEnd, List.reverse_eq_nil_iff, List.dropWhile_eq_nil_iff]
  constructor
  · intro h
    -- Whatever is left at the start begins with no blank, so nothing is left.
    have hstart : cs.dropWhile isBlank = [] := by
      by_contra hne
      have hhead := List.head_dropWhile_not isBlank hne
      rw [h _ (List.mem_reverse.mpr (List.head_mem hne))] at hhead
      cases hhead
    exact List.dropWhile_eq_nil_iff.mp hstart
  · intro h c hc
    exact h c ((List.dropWhile_sublist _).subset (List.mem_reverse.mp hc))

theorem trim_eq_empty_iff {s : String} : trim s = "" ↔ isAllBlank s := by
  rw [trim, String.ofList_eq_empty_iff, trimChars_eq_nil_iff, isAllBlank, List.all_eq_true]

theorem dropWhile_isBlank {cs : List Char} (h : ∀ c ∈ cs, isBlank c = false) :
    cs.dropWhile isBlank = cs := by
  cases cs with
  | nil => rfl
  | cons c cs =>
    rw [List.dropWhile_cons, h c List.mem_cons_self]
    rfl

/-- There is nothing to be taken off a text without blanks. -/
theorem trimChars_of_not_blank {cs : List Char} (h : ∀ c ∈ cs, isBlank c = false) :
    trimChars cs = cs := by
  have hback : ∀ c ∈ cs.reverse, isBlank c = false := fun c hc => h c (List.mem_reverse.mp hc)
  rw [trimChars, trimStart, dropWhile_isBlank h, trimEnd, dropWhile_isBlank hback,
    List.reverse_reverse]

theorem trim_of_not_blank {s : String} (h : ∀ c ∈ s.toList, isBlank c = false) : trim s = s := by
  rw [trim, trimChars_of_not_blank h, String.ofList_toList]

/-! ### The first of its kind -/

section First

variable {mark : Char} {front : List Char}

theorem takeWhile_ne (h : ∀ c ∈ front, c ≠ mark) (rest : List Char) :
    (front ++ mark :: rest).takeWhile (· ≠ mark) = front := by
  rw [List.takeWhile_append_of_pos (by simpa using h)]
  simp

theorem dropWhile_ne (h : ∀ c ∈ front, c ≠ mark) (rest : List Char) :
    (front ++ mark :: rest).dropWhile (· ≠ mark) = mark :: rest := by
  rw [List.dropWhile_append_of_pos (by simpa using h)]
  simp

end First

/-! ### Pieces -/

theorem pieces_ne_nil (cs : List Char) : pieces cs ≠ [] := by
  induction cs with
  | nil => exact List.cons_ne_nil _ _
  | cons c cs ih =>
    rw [pieces]
    split
    · exact List.cons_ne_nil _ _
    · split <;> exact List.cons_ne_nil _ _

theorem pieces_cons_of_not_blank {c : Char} (hc : isBlank c = false) {cs p : List Char}
    {ps : List (List Char)} (h : pieces cs = p :: ps) : pieces (c :: cs) = (c :: p) :: ps := by
  rw [pieces, h, hc]
  rfl

theorem pieces_append_blank {b : Char} (hb : isBlank b) (cs ds : List Char) :
    pieces (cs ++ b :: ds) = pieces cs ++ pieces ds := by
  induction cs with
  | nil =>
    have hblank : pieces (b :: ds) = [] :: pieces ds := by rw [pieces, if_pos hb]
    exact hblank
  | cons c cs ih =>
    rw [List.cons_append]
    cases hc : isBlank c with
    | true => rw [pieces, pieces, if_pos hc, if_pos hc, ih, List.cons_append]
    | false =>
      obtain ⟨p, ps, hps⟩ := List.exists_cons_of_ne_nil (pieces_ne_nil cs)
      rw [hps, List.cons_append] at ih
      rw [pieces_cons_of_not_blank hc ih, pieces_cons_of_not_blank hc hps, List.cons_append]

theorem not_blank_of_mem_pieces {cs p : List Char} (hp : p ∈ pieces cs) :
    ∀ c ∈ p, isBlank c = false := by
  induction cs generalizing p with
  | nil =>
    obtain rfl : p = [] := List.mem_singleton.mp hp
    intro c hc
    cases hc
  | cons c cs ih =>
    cases hc : isBlank c with
    | true =>
      rw [pieces, if_pos hc] at hp
      rcases List.mem_cons.mp hp with rfl | hp
      · intro d hd
        cases hd
      · exact ih hp
    | false =>
      obtain ⟨q, qs, hqs⟩ := List.exists_cons_of_ne_nil (pieces_ne_nil cs)
      rw [hqs] at ih
      rw [pieces_cons_of_not_blank hc hqs] at hp
      rcases List.mem_cons.mp hp with rfl | hp
      · intro d hd
        rcases List.mem_cons.mp hd with rfl | hd
        · exact hc
        · exact ih List.mem_cons_self d hd
      · exact ih (List.mem_cons_of_mem q hp)

theorem pieces_of_not_blank {cs : List Char} (h : ∀ c ∈ cs, isBlank c = false) :
    pieces cs = [cs] := by
  induction cs with
  | nil => rfl
  | cons c cs ih =>
    have hcs : pieces cs = [cs] := ih fun d hd => h d (List.mem_cons_of_mem c hd)
    exact pieces_cons_of_not_blank (h c List.mem_cons_self) hcs

/-! ### Words -/

/-- A word is not empty and holds no blank. -/
structure IsWord (w : List Char) : Prop where
  /-- There is a character in it. -/
  ne_nil : w ≠ []
  /-- No character in it is a blank. -/
  not_blank : ∀ c ∈ w, isBlank c = false

theorem isWord_iff {w : List Char} : (w ≠ [] ∧ w.all (fun c => !isBlank c) = true) ↔ IsWord w := by
  simp only [List.all_eq_true, Bool.not_eq_true']
  exact ⟨fun h => ⟨h.1, h.2⟩, fun h => ⟨h.ne_nil, h.not_blank⟩⟩

instance (w : List Char) : Decidable (IsWord w) := decidable_of_iff _ isWord_iff

theorem isWord_of_mem_wordChars {cs w : List Char} (hw : w ∈ wordChars cs) : IsWord w := by
  obtain ⟨hpiece, hne⟩ := List.mem_filter.mp hw
  refine ⟨?_, not_blank_of_mem_pieces hpiece⟩
  rintro rfl
  exact absurd hne (by decide)

theorem wordChars_of_isWord {w : List Char} (hw : IsWord w) : wordChars w = [w] := by
  rw [wordChars, pieces_of_not_blank hw.not_blank]
  exact List.filter_cons_of_pos (by simp [hw.ne_nil])

/-- **A blank keeps what stands before it and what stands behind it apart.** -/
theorem wordChars_append_blank {b : Char} (hb : isBlank b) (cs ds : List Char) :
    wordChars (cs ++ b :: ds) = wordChars cs ++ wordChars ds := by
  rw [wordChars, pieces_append_blank hb, List.filter_append]
  rfl

theorem wordChars_trimStart (cs : List Char) : wordChars (trimStart cs) = wordChars cs := by
  induction cs with
  | nil => rfl
  | cons c cs ih =>
    cases hc : isBlank c with
    | true =>
      have hdrop : trimStart (c :: cs) = trimStart cs := List.dropWhile_cons_of_pos hc
      rw [hdrop, ih]
      exact (wordChars_append_blank hc [] cs).symm
    | false => rw [trimStart, List.dropWhile_cons_of_neg (by simp [hc])]

/-- Blanks in front of a text are of no word. -/
theorem wordChars_blanks_append {gap : List Char} (hgap : ∀ c ∈ gap, isBlank c)
    (cs : List Char) : wordChars (gap ++ cs) = wordChars cs := by
  have hstart : trimStart (gap ++ cs) = trimStart cs := List.dropWhile_append_of_pos hgap
  rw [← wordChars_trimStart, hstart, wordChars_trimStart]

/-- **Blanks between two texts keep them apart**, however many there are and of whatever
kind. -/
theorem wordChars_append_blanks {gap : List Char} (hne : gap ≠ [])
    (hgap : ∀ c ∈ gap, isBlank c) (cs ds : List Char) :
    wordChars (cs ++ gap ++ ds) = wordChars cs ++ wordChars ds := by
  obtain ⟨b, rest, rfl⟩ := List.exists_cons_of_ne_nil hne
  obtain ⟨hb, hrest⟩ := List.forall_mem_cons.mp hgap
  rw [List.append_assoc, List.cons_append, wordChars_append_blank hb,
    wordChars_blanks_append hrest]

/-- Blanks behind a text are of no word. -/
theorem wordChars_append_of_blanks {gap : List Char} (hgap : ∀ c ∈ gap, isBlank c)
    (cs : List Char) : wordChars (cs ++ gap) = wordChars cs := by
  cases gap with
  | nil => rw [List.append_nil]
  | cons b rest =>
    have happend := wordChars_append_blanks (List.cons_ne_nil b rest) hgap cs []
    rwa [List.append_nil, show wordChars [] = [] from rfl, List.append_nil] at happend

theorem wordChars_trimEnd (cs : List Char) : wordChars (trimEnd cs) = wordChars cs := by
  induction cs using List.reverseRecOn with
  | nil => rfl
  | append_singleton cs c ih =>
    rw [trimEnd, List.reverse_append, List.reverse_singleton, List.singleton_append]
    cases hc : isBlank c with
    | true =>
      rw [List.dropWhile_cons_of_pos hc, wordChars_append_blank hc]
      exact ih.trans (List.append_nil _).symm
    | false =>
      rw [List.dropWhile_cons_of_neg (by simp [hc]), List.reverse_cons, List.reverse_reverse]

/-- **The blanks at the ends of a text** are of no word. -/
theorem wordChars_trimChars (cs : List Char) : wordChars (trimChars cs) = wordChars cs :=
  (wordChars_trimEnd _).trans (wordChars_trimStart cs)

/-- Words with single spaces between them are the words of the whole. -/
theorem wordChars_intercalate {ws : List (List Char)} (h : ∀ w ∈ ws, IsWord w) :
    wordChars ([' '].intercalate ws) = ws := by
  induction ws with
  | nil => rfl
  | cons w ws ih =>
    have hw := wordChars_of_isWord (h w List.mem_cons_self)
    cases ws with
    | nil => rwa [List.intercalate_singleton]
    | cons v vs =>
      rw [List.intercalate_cons_cons, List.append_assoc, List.singleton_append,
        wordChars_append_blank rfl, hw, ih fun u hu => h u (List.mem_cons_of_mem w hu)]
      rfl

/-! ### The case of letters -/

theorem toNat_toLower (c : Char) :
    c.toLower.toNat = if 65 ≤ c.toNat ∧ c.toNat ≤ 90 then c.toNat + 32 else c.toNat := by
  have hcap : (c.val ≥ 'A'.val ∧ c.val ≤ 'Z'.val) ↔ 65 ≤ c.toNat ∧ c.toNat ≤ 90 := Iff.rfl
  by_cases h : 65 ≤ c.toNat ∧ c.toNat ≤ 90
  · have hlower : c.toLower = _ := dif_pos (hcap.mpr h)
    have hadd : (c.val + 32).toNat = (c.toNat + 32) % 2 ^ 32 := UInt32.toNat_add c.val 32
    rw [if_pos h, hlower]
    exact hadd.trans (Nat.mod_eq_of_lt (by omega))
  · have hsame : c.toLower = c := dif_neg fun h' => h (hcap.mp h')
    rw [if_neg h, hsame]

theorem toNat_toUpper (c : Char) :
    c.toUpper.toNat = if 97 ≤ c.toNat ∧ c.toNat ≤ 122 then c.toNat - 32 else c.toNat := by
  have hsmall : ('a'.val ≤ c.val ∧ c.val ≤ 'z'.val) ↔ 97 ≤ c.toNat ∧ c.toNat ≤ 122 := Iff.rfl
  by_cases h : 97 ≤ c.toNat ∧ c.toNat ≤ 122
  · have hupper : c.toUpper = _ := dif_pos (hsmall.mpr h)
    -- The distance from small letters to capitals is negative, and wraps around.
    have hadd : (c.val + 4294967264).toNat = (c.toNat + 4294967264) % 2 ^ 32 :=
      UInt32.toNat_add c.val 4294967264
    rw [if_pos h, hupper]
    exact hadd.trans (by omega)
  · have hsame : c.toUpper = c := dif_neg fun h' => h (hsmall.mp h')
    rw [if_neg h, hsame]

theorem toUpper_toLower (c : Char) : c.toLower.toUpper = c.toUpper := by
  rw [← Char.toNat_inj, toNat_toUpper, toNat_toUpper, toNat_toLower]
  grind

theorem toLower_toUpper (c : Char) : c.toUpper.toLower = c.toLower := by
  rw [← Char.toNat_inj, toNat_toLower, toNat_toLower, toNat_toUpper]
  grind

/-- Two characters that are equal up to case are equal, or no less than capital letters and
no more than small ones. -/
theorem eq_or_letters {c d : Char} (h : c.toLower = d.toLower) :
    c = d ∨ (65 ≤ c.toNat ∧ c.toNat ≤ 122) ∧ 65 ≤ d.toNat ∧ d.toNat ≤ 122 := by
  have hnat := congrArg Char.toNat h
  rw [toNat_toLower, toNat_toLower] at hnat
  rw [← Char.toNat_inj]
  grind

theorem isBlank_eq_false_of_letter {c : Char} (h : 65 ≤ c.toNat ∧ c.toNat ≤ 122) :
    isBlank c = false := by
  simp only [isBlank]
  grind

theorem isBlank_of_toLower_eq {c d : Char} (h : c.toLower = d.toLower)
    (hc : isBlank c = false) : isBlank d = false := by
  rcases eq_or_letters h with rfl | ⟨-, hd⟩
  · exact hc
  · exact isBlank_eq_false_of_letter hd

/-- A character in front of all letters is equal to itself only. -/
theorem eq_of_toLower_eq {c d : Char} (h : c.toLower = d.toLower) (hd : d.toNat < 65) :
    c = d := by
  rcases eq_or_letters h with rfl | ⟨-, hletter⟩
  · rfl
  · omega

variable {s t u : String}

theorem equalIgnoringCase_iff :
    equalIgnoringCase s t ↔ s.toList.map Char.toLower = t.toList.map Char.toLower := by
  rw [equalIgnoringCase, decide_eq_true_eq]

theorem equalIgnoringCase_refl (s : String) : equalIgnoringCase s s :=
  equalIgnoringCase_iff.mpr rfl

theorem equalIgnoringCase_symm (h : equalIgnoringCase s t) : equalIgnoringCase t s :=
  equalIgnoringCase_iff.mpr (equalIgnoringCase_iff.mp h).symm

theorem equalIgnoringCase_trans (h : equalIgnoringCase s t) (h' : equalIgnoringCase t u) :
    equalIgnoringCase s u :=
  equalIgnoringCase_iff.mpr ((equalIgnoringCase_iff.mp h).trans (equalIgnoringCase_iff.mp h'))

/-- A character of one text is one of the other, up to case. -/
theorem exists_mem_of_equalIgnoringCase (h : equalIgnoringCase s t) {d : Char}
    (hd : d ∈ t.toList) : ∃ c ∈ s.toList, c.toLower = d.toLower := by
  have hmem : d.toLower ∈ s.toList.map Char.toLower := by
    rw [equalIgnoringCase_iff.mp h]
    exact List.mem_map_of_mem hd
  exact List.mem_map.mp hmem

theorem eq_nil_iff_of_equalIgnoringCase (h : equalIgnoringCase s t) :
    s.toList = [] ↔ t.toList = [] := by
  rw [← List.map_eq_nil_iff (f := Char.toLower), equalIgnoringCase_iff.mp h, List.map_eq_nil_iff]

/-- A text starts with a character in front of all letters only if every text does that is
equal to it up to case. -/
theorem head?_of_equalIgnoringCase (h : equalIgnoringCase s t) {d : Char} (hd : d.toNat < 65)
    (hhead : t.toList.head? = some d) : s.toList.head? = some d := by
  have hlower := congrArg List.head? (equalIgnoringCase_iff.mp h)
  rw [List.head?_map, List.head?_map, hhead] at hlower
  obtain ⟨c, hc, hcd⟩ := Option.map_eq_some_iff.mp hlower
  rw [hc, eq_of_toLower_eq hcd hd]

/-- Texts that are equal with small letters are equal with capitals. -/
theorem map_toUpper_of_equalIgnoringCase (h : equalIgnoringCase s t) :
    s.toList.map Char.toUpper = t.toList.map Char.toUpper := by
  have hupper := congrArg (List.map Char.toUpper) (equalIgnoringCase_iff.mp h)
  have hcomp : Char.toUpper ∘ Char.toLower = Char.toUpper := funext toUpper_toLower
  rwa [List.map_map, List.map_map, hcomp] at hupper

/-- Texts are equal with capitals if and only if they are equal when the case is ignored. -/
theorem map_toUpper_eq_iff :
    s.toList.map Char.toUpper = t.toList.map Char.toUpper ↔ equalIgnoringCase s t := by
  refine ⟨fun h => ?_, map_toUpper_of_equalIgnoringCase⟩
  have hlower := congrArg (List.map Char.toLower) h
  have hcomp : Char.toLower ∘ Char.toUpper = Char.toLower := funext toLower_toUpper
  rw [List.map_map, List.map_map, hcomp] at hlower
  exact equalIgnoringCase_iff.mpr hlower

/-- Of texts that are equal up to case, none is blank unless the other one is. -/
theorem isAllBlank_of_equalIgnoringCase (h : equalIgnoringCase s t) (hs : isAllBlank s) :
    isAllBlank t := by
  rw [isAllBlank, List.all_eq_true] at hs ⊢
  intro d hd
  obtain ⟨c, hc, hcd⟩ := exists_mem_of_equalIgnoringCase h hd
  by_contra hblank
  have hc' := isBlank_of_toLower_eq hcd.symm (Bool.not_eq_true _ ▸ hblank)
  rw [hs c hc] at hc'
  cases hc'

end Text

end SmartForm
