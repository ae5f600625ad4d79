import SmartForm.Proofs.Unicode.CodeSet
import SmartForm.Text.Lowercase

/-!
# The lower case of a part of a text

The one thing to know is that only the capital sigma looks around. So the lower case of
a text is made of the lower cases of its parts, each of them taken between what stands
before it and what stands after it (`SmartForm.Text.lowerFrom_append`), and a part has
the same lower case in two places exactly if each of its capital sigmas gets the same
form in both (`SmartForm.Text.lowerBetween_eq_iff`). The length never depends on the
place (`SmartForm.Text.length_lowerBetween`).

What a sigma sees around it are letters, and which characters are letters is written in
the tables of the character database. Their first words settle the Greek capitals
(`SmartForm.Text.facesCased_greek`).
-/

namespace SmartForm

namespace Text

/-! ### Parts of texts -/

/-- The lower case of a part of a text: `before` is what stands before the part, the
nearest character first, and `after` is what stands after it. -/
def lowerBetween (before after : List Char) : List Char → List Char
  | [] => []
  | c :: rest =>
    (if c = capitalSigma then [sigmaBetween before (rest ++ after)] else lowerChar c)
      ++ lowerBetween (c :: before) after rest

/-- **Every capital sigma of a part gets the same form** in two places: after `before`
and before `after`, or after `before'` and before `after'`. -/
def SigmasAgree (before after before' after' part : List Char) : Prop :=
  ∀ left right, part = left ++ capitalSigma :: right →
    sigmaBetween (left.reverse ++ before) (right ++ after)
      = sigmaBetween (left.reverse ++ before') (right ++ after')

variable {before after before' after' : List Char}

theorem lowerFrom_sigma (before rest : List Char) :
    lowerFrom before (capitalSigma :: rest)
      = sigmaBetween before rest :: lowerFrom (capitalSigma :: before) rest := by
  rw [lowerFrom, if_pos rfl, List.singleton_append]

theorem lowerFrom_of_ne {c : Char} (h : c ≠ capitalSigma) (before rest : List Char) :
    lowerFrom before (c :: rest) = lowerChar c ++ lowerFrom (c :: before) rest := by
  rw [lowerFrom, if_neg h]

theorem lowerFrom_append (before xs ys : List Char) :
    lowerFrom before (xs ++ ys)
      = lowerBetween before ys xs ++ lowerFrom (xs.reverse ++ before) ys := by
  induction xs generalizing before with
  | nil => rfl
  | cons c xs ih =>
    rw [List.cons_append, lowerFrom, lowerBetween, ih, List.append_assoc, List.reverse_cons,
      List.append_assoc, List.singleton_append]

theorem lowerBetween_nil (before xs : List Char) :
    lowerBetween before [] xs = lowerFrom before xs := by
  have h := lowerFrom_append before xs []
  rwa [List.append_nil, lowerFrom, List.append_nil, eq_comm] at h

theorem lowerChars_append_append (a part b : List Char) :
    lowerChars (a ++ part ++ b) = lowerBetween [] (part ++ b) a
      ++ lowerBetween a.reverse b part ++ lowerFrom (part.reverse ++ a.reverse) b := by
  rw [lowerChars, List.append_assoc, lowerFrom_append, lowerFrom_append, List.append_nil,
    List.append_assoc]

theorem length_lowerBetween (before after before' after' part : List Char) :
    (lowerBetween before after part).length = (lowerBetween before' after' part).length := by
  induction part generalizing before before' with
  | nil => rfl
  | cons c rest ih =>
    rw [lowerBetween, lowerBetween, List.length_append, List.length_append,
      ih (c :: before) (c :: before')]
    split <;> rfl

theorem sigmasAgree_nil : SigmasAgree before after before' after' [] := by
  intro left right h
  cases left <;> cases h

theorem sigmasAgree_cons {c : Char} {rest : List Char} :
    SigmasAgree before after before' after' (c :: rest) ↔
      (c = capitalSigma →
          sigmaBetween before (rest ++ after) = sigmaBetween before' (rest ++ after'))
        ∧ SigmasAgree (c :: before) after (c :: before') after' rest := by
  constructor
  · intro h
    refine ⟨?head, ?tail⟩
    case head =>
      rintro rfl
      exact h [] rest rfl
    case tail =>
      intro left right hrest
      simpa using h (c :: left) right (by rw [hrest, List.cons_append])
  · rintro ⟨hhead, htail⟩ left right hpart
    cases left with
    | nil =>
      obtain ⟨rfl, rfl⟩ := List.cons.inj hpart
      exact hhead rfl
    | cons d left =>
      obtain ⟨rfl, hrest⟩ := List.cons.inj hpart
      simpa using htail left right hrest

/-- **A part of a text has one lower case** in two places exactly if each of its capital
sigmas has one form in them. -/
theorem lowerBetween_eq_iff {part : List Char} :
    lowerBetween before after part = lowerBetween before' after' part
      ↔ SigmasAgree before after before' after' part := by
  induction part generalizing before before' with
  | nil => exact ⟨fun _ => sigmasAgree_nil, fun _ => rfl⟩
  | cons c rest ih =>
    have hlength := length_lowerBetween (c :: before) after (c :: before') after' rest
    rw [sigmasAgree_cons, ← ih, lowerBetween, lowerBetween]
    constructor
    · intro h
      obtain ⟨hhead, htail⟩ := List.append_inj' h hlength
      refine ⟨fun hc => ?_, htail⟩
      rw [if_pos hc, if_pos hc] at hhead
      exact List.singleton_inj.mp hhead
    · rintro ⟨hhead, htail⟩
      rw [htail]
      by_cases hc : c = capitalSigma
      · rw [if_pos hc, if_pos hc, hhead hc]
      · rw [if_neg hc, if_neg hc]

theorem sigmasAgree_of_not_mem {part : List Char} (h : capitalSigma ∉ part) :
    SigmasAgree before after before' after' part := by
  rintro left right rfl
  exact absurd (by simp) h

theorem sigmaBetween_nil (h : facesCased before) : sigmaBetween before [] = 'ς' := by
  rw [sigmaBetween, h]
  rfl

theorem sigmaBetween_letters (h : facesCased before) (h' : facesCased after) :
    sigmaBetween before after = 'σ' := by
  rw [sigmaBetween, h, h']
  rfl

/-! ### Greek capitals -/

set_option maxRecDepth 20000 in
theorem casedCodes_start : ∃ numbers, casedCodes =
    [(65, 90), (97, 122), (170, 170), (181, 181), (186, 186), (192, 214), (216, 246), (248, 442),
      (444, 447), (452, 659), (662, 696), (704, 705), (736, 740), (837, 837), (880, 883),
      (886, 887), (890, 893), (895, 895), (902, 902), (904, 906), (908, 908), (910, 929)]
      ++ CodeSet.rangesOfTable 929 numbers := by
  rw [casedCodes, CodeSet.ofTable, CodeSet.tableNumbers_eq, Property.casedTable,
    String.toList_ofList]
  exact ⟨_, rfl⟩

set_option maxRecDepth 20000 in
theorem caseIgnorableCodes_start : ∃ numbers, caseIgnorableCodes =
    [(39, 39), (46, 46), (58, 58), (94, 94), (96, 96), (168, 168), (173, 173), (175, 175),
      (180, 180), (183, 184), (688, 879), (884, 885), (890, 890), (900, 901), (903, 903),
      (1155, 1161)] ++ CodeSet.rangesOfTable 1161 numbers := by
  rw [caseIgnorableCodes, CodeSet.ofTable, CodeSet.tableNumbers_eq, Property.caseIgnorableTable,
    String.toList_ofList]
  exact ⟨_, rfl⟩

/-- A capital of the Greek alphabet from alpha to rho takes part in casing, and casing does not
look through it. -/
theorem facesCased_greek {c : Char} (hlow : 913 ≤ c.toNat) (hhigh : c.toNat ≤ 929)
    (cs : List Char) : facesCased (c :: cs) := by
  obtain ⟨cased, hcased⟩ := casedCodes_start
  obtain ⟨ignorable, hignorable⟩ := caseIgnorableCodes_start
  have hseen : caseIgnorableCodes.hasChar c = false := by
    have hbehind := CodeSet.has_rangesOfTable_of_lt (show c.toNat < 1161 by omega) ignorable
    rw [hignorable, CodeSet.hasChar, CodeSet.has, List.any_append, Bool.or_eq_false_iff]
    refine ⟨?_, hbehind⟩
    simp
    omega
  have hletter : casedCodes.hasChar c := by
    rw [hcased, CodeSet.hasChar, CodeSet.has, List.any_append, Bool.or_eq_true]
    left
    simp
    omega
  rw [facesCased, List.dropWhile_cons_of_neg (by simp [hseen])]
  exact hletter

end Text

end SmartForm
