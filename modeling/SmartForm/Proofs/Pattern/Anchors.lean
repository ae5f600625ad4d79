import Mathlib.Data.List.MinMax
import Mathlib.Order.Nat
import SmartForm.Proofs.Pattern.Branches
import SmartForm.Proofs.Pattern.Matching

/-!
# One branch between anchors

The expressions of a branch match one after the other
(`SmartForm.Regex.matches_sequence_iff`), so anchors at both ends make a match anywhere in a
text a match of the whole text. A pattern that is one branch
(`SmartForm.Regex.isBranch`) keeps its expressions when a circumflex is put in front of it
and a dollar sign behind it, which is why anchors that are put into the text of such a
pattern do what is expected of them (`SmartForm.Regex.isMatch_marked_iff`).

That the pattern is one branch cannot be left out. Beside an alternative an anchor belongs to
one branch alone, and behind a backslash a dollar sign is a character like any other.

Anchors take room, so that a pattern that is just accepted may be refused between them. What
they may cost is what they cost around the expression, and they make one more level at most
(`SmartForm.Regex.isAccepted_marked`).
-/

namespace SmartForm

namespace Regex

/-! ### Expressions one after the other -/

/-- Expressions match one after the other between two positions. -/
def Along (text : Array Char) : List Regex → Nat → Nat → Prop
  | [], i, j => i = j
  | r :: rs, i, j => ∃ k, r.Matches text i k ∧ Along text rs k j

section Along

variable {text : Array Char} {i j : Nat}

theorem along_append {rs rs' : List Regex} :
    Along text (rs ++ rs') i j ↔ ∃ k, Along text rs i k ∧ Along text rs' k j := by
  induction rs generalizing i with
  | nil =>
    constructor
    · intro h
      exact ⟨i, rfl, h⟩
    · rintro ⟨k, rfl, h⟩
      exact h
  | cons r rs ih =>
    constructor
    · rintro ⟨l, hfirst, hrest⟩
      obtain ⟨k, hbefore, hafter⟩ := ih.mp hrest
      exact ⟨k, ⟨l, hfirst, hbefore⟩, hafter⟩
    · rintro ⟨k, ⟨l, hfirst, hbefore⟩, hafter⟩
      exact ⟨l, hfirst, ih.mpr ⟨k, hbefore, hafter⟩⟩

theorem along_singleton {r : Regex} : Along text [r] i j ↔ r.Matches text i j := by
  constructor
  · rintro ⟨k, h, rfl⟩
    exact h
  · intro h
    exact ⟨j, h, rfl⟩

theorem matches_foldl_iff {before : List Regex} {r : Regex} :
    (before.foldl (fun r a => .cat a r) r).Matches text i j ↔
      ∃ k, Along text before.reverse i k ∧ r.Matches text k j := by
  induction before generalizing r with
  | nil =>
    constructor
    · intro h
      exact ⟨i, rfl, h⟩
    · rintro ⟨k, rfl, h⟩
      exact h
  | cons a before ih =>
    rw [List.foldl_cons, ih, List.reverse_cons]
    simp only [along_append, along_singleton]
    constructor
    · rintro ⟨k, hbefore, l, ha, hr⟩
      exact ⟨l, ⟨k, hbefore, ha⟩, hr⟩
    · rintro ⟨l, ⟨k, hbefore, ha⟩, hr⟩
      exact ⟨k, hbefore, l, ha, hr⟩

/-- What has been read of a branch, in the order of the pattern. -/
def inOrder (read : List (Nested (Option Regex))) : List Regex :=
  (read.filterMap Nested.val).reverse

/-- **The expressions of a branch match one after the other.** -/
theorem matches_sequence_iff {read : List (Nested (Option Regex))} :
    (sequence read).val.Matches text i j ↔ Along text (inOrder read) i j := by
  simp only [sequence, inOrder]
  split
  · next hnil =>
    rw [hnil]
    exact Iff.rfl
  · next last before hcons =>
    rw [hcons, matches_foldl_iff, List.reverse_cons, along_append]
    simp only [along_singleton]

end Along

/-! ### Anchors -/

/-- Expressions with an anchor in front of them or not, and with an anchor behind them or
not. -/
def anchoredList (caret dollar : Bool) (rs : List Regex) : List Regex :=
  (if caret then [.look .textStart] else []) ++ rs ++ (if dollar then [.look .textEnd] else [])

section Anchors

variable {text : Array Char} {i j : Nat} {rs : List Regex}

theorem along_textStart_cons :
    Along text (.look .textStart :: rs) i j ↔ i = 0 ∧ Along text rs i j := by
  constructor
  · rintro ⟨k, ⟨rfl, hstart⟩, hrest⟩
    exact ⟨by simpa [holds] using hstart, hrest⟩
  · rintro ⟨rfl, hrest⟩
    exact ⟨0, ⟨rfl, by simp [holds]⟩, hrest⟩

theorem along_concat_textEnd :
    Along text (rs ++ [.look .textEnd]) i j ↔ Along text rs i j ∧ j = text.size := by
  rw [along_append]
  simp only [along_singleton]
  constructor
  · rintro ⟨k, hrest, rfl, hend⟩
    exact ⟨hrest, by simpa [holds] using hend⟩
  · rintro ⟨hrest, rfl⟩
    exact ⟨_, hrest, rfl, by simp [holds]⟩

/-- At the ends of a text the anchors say nothing. -/
theorem along_anchoredList_iff (caret dollar : Bool) :
    Along text (anchoredList caret dollar rs) 0 text.size ↔ Along text rs 0 text.size := by
  cases caret <;> cases dollar <;>
    simp [anchoredList, along_textStart_cons, along_concat_textEnd]

/-- Between both anchors a match anywhere is a match of the whole text. -/
theorem along_anchored_iff :
    Along text (anchoredList true true rs) i j ↔
      i = 0 ∧ j = text.size ∧ Along text rs i j := by
  rw [anchoredList, if_pos rfl, if_pos rfl, List.append_assoc, List.singleton_append,
    along_textStart_cons, along_concat_textEnd, and_comm (a := Along text rs i j)]

end Anchors

/-! ### Patterns that are one branch -/

/-- Whether a pattern is one branch, at whose end the anchors do not stand for lines and
nothing is skipped. -/
def isBranch (cs : List Char) : Bool :=
  match branch? (2 * cs.length + 1) {} [] cs with
  | some (_, scope, []) => !scope.flags.verbose && !scope.flags.multiLine
  | _ => false

theorem exists_branch?_of_isBranch {cs : List Char} (h : isBranch cs = true) :
    ∃ r scope, branch? (2 * cs.length + 1) {} [] cs = some (r, scope, []) ∧
      scope.flags.verbose = false ∧ scope.flags.multiLine = false := by
  unfold isBranch at h
  split at h
  · next r scope hbranch =>
    simp only [Bool.and_eq_true, Bool.not_eq_true'] at h
    exact ⟨r, scope, hbranch, h⟩
  · cases h

/-- **Marks at the ends of a branch become anchors** at the ends of its expressions. -/
theorem inOrder_markedItems (caret dollar : Bool) (read : List (Nested (Option Regex))) :
    inOrder (markedItems caret dollar read) = anchoredList caret dollar (inOrder read) := by
  cases caret <;> cases dollar <;> simp [inOrder, markedItems, anchoredList]

/-- The items of a pattern that is one branch, whatever marks stand at its ends. -/
theorem exists_items_of_isBranch {cs : List Char} (h : isBranch cs = true) :
    ∃ read, ∀ caret dollar, ofPattern? (String.ofList (marked caret dollar cs)) =
      some (sequence (markedItems caret dollar read)) := by
  obtain ⟨r, scope, hbranch, hverbose, hline⟩ := exists_branch?_of_isBranch h
  exact ofPattern?_of_branch hbranch hverbose hline

section Branch

variable {cs : List Char} {caret dollar : Bool} {r r' : Nested Regex}

/-- **Between anchors, a match anywhere is a match of the whole text** by the pattern as it was
written. -/
theorem isMatch_marked_iff (h : isBranch cs = true)
    (hr : ofPattern? (String.ofList (marked caret dollar cs)) = some r)
    (hr' : ofPattern? (String.ofList (marked true true cs)) = some r') (s : String) :
    r'.val.isMatch s = true ↔ r.val.MatchesWhole s := by
  obtain ⟨read, hread⟩ := exists_items_of_isBranch h
  obtain rfl := Option.some.inj ((hread caret dollar).symm.trans hr)
  obtain rfl := Option.some.inj ((hread true true).symm.trans hr')
  rw [isMatch_iff, MatchesWhole]
  simp only [matches_sequence_iff, inOrder_markedItems, along_anchored_iff,
    along_anchoredList_iff]
  constructor
  · rintro ⟨_, _, -, rfl, rfl, halong⟩
    exact halong
  · intro halong
    exact ⟨0, _, Nat.zero_le _, rfl, rfl, halong⟩

end Branch

/-! ### The room for anchors -/

namespace Cost

/-- No more in either direction. -/
def Le (a b : Cost) : Prop := a.forward ≤ b.forward ∧ a.backward ≤ b.backward

theorem add_assoc (a b c : Cost) : (a.add b).add c = a.add (b.add c) := by
  simp [add, Nat.add_assoc]

theorem zero_add (a : Cost) : zero.add a = a := by simp [add, zero]

end Cost

theorem isCompilable_of_le {a b : Regex} (hle : a.cost.Le b.cost) (h : b.isCompilable = true) :
    a.isCompilable = true := by
  obtain ⟨hforward, hbackward⟩ := hle
  simp only [isCompilable, Bool.and_eq_true, decide_eq_true_eq] at h ⊢
  omega

/-- What expressions cost together. -/
def total (rs : List Regex) : Cost := rs.foldr (fun r c => r.cost.add c) .zero

theorem total_cons (r : Regex) (rs : List Regex) : total (r :: rs) = r.cost.add (total rs) := rfl

theorem total_append (rs rs' : List Regex) : total (rs ++ rs') = (total rs).add (total rs') := by
  induction rs with
  | nil => exact (Cost.zero_add _).symm
  | cons r rs ih =>
    rw [List.cons_append, total_cons, total_cons, ih, Cost.add_assoc]

theorem total_singleton (r : Regex) : total [r] = r.cost := rfl

theorem cost_foldl (before : List Regex) (r : Regex) :
    (before.foldl (fun r a => .cat a r) r).cost = (total before.reverse).add r.cost := by
  induction before generalizing r with
  | nil => exact (Cost.zero_add _).symm
  | cons a before ih =>
    rw [List.foldl_cons, ih, cost, List.reverse_cons, total_append, total_singleton,
      Cost.add_assoc]

theorem cost_sequence {read : List (Nested (Option Regex))} (h : inOrder read ≠ []) :
    (sequence read).val.cost = total (inOrder read) := by
  simp only [sequence, inOrder] at h ⊢
  split
  · next hnil =>
    rw [hnil] at h
    exact absurd rfl h
  · next last before hcons =>
    rw [hcons, cost_foldl, List.reverse_cons, total_append, total_singleton]

/-- Where there are no expressions, the empty one costs something. -/
theorem total_le_cost_sequence (read : List (Nested (Option Regex))) :
    (total (inOrder read)).Le (sequence read).val.cost := by
  by_cases h : inOrder read = []
  · rw [h]
    exact ⟨Nat.zero_le _, Nat.zero_le _⟩
  · rw [cost_sequence h]
    exact ⟨Nat.le_refl _, Nat.le_refl _⟩

end Regex

namespace Nested

variable {α : Type} {xs : List (Nested α)} {n : Nat}

/-- No part is deeper than all of them side by side. -/
theorem depth_le_depthOf {x : Nested α} (hx : x ∈ xs) : x.depth ≤ depthOf xs := by
  match xs with
  | [] => cases hx
  | [y] =>
    obtain rfl := List.mem_singleton.mp hx
    exact Nat.le_refl _
  | y :: z :: xs =>
    exact Nat.le_succ_of_le (List.le_max_of_le (List.mem_map_of_mem hx) (Nat.le_refl _))

/-- Side by side, parts are one level deeper at most. -/
theorem depthOf_le (h : ∀ x ∈ xs, x.depth ≤ n) : depthOf xs ≤ n + 1 := by
  have hfold : (xs.map depth).foldr max 0 ≤ n :=
    List.max_le_of_forall_le _ _ (List.forall_mem_map.mpr h)
  match xs with
  | [] => exact Nat.zero_le _
  | [y] => exact Nat.le_succ_of_le (h y List.mem_cons_self)
  | y :: z :: xs => exact Nat.succ_le_succ hfold

end Nested

namespace Regex

/-- A pattern between anchors, which make one more level. -/
def between (r : Nested Regex) : Nested Regex :=
  r.wrap fun r => .cat (.cat (.look .textStart) r) (.look .textEnd)

theorem cost_marked_le (caret dollar : Bool) (read : List (Nested (Option Regex))) :
    (sequence (markedItems true true read)).val.cost.Le
      (between (sequence (markedItems caret dollar read))).val.cost := by
  have htotal : (total (inOrder read)).Le (sequence (markedItems caret dollar read)).val.cost := by
    obtain ⟨hforward, hbackward⟩ := total_le_cost_sequence (markedItems caret dollar read)
    rw [inOrder_markedItems, anchoredList, total_append, total_append] at hforward hbackward
    simp only [Cost.add] at hforward hbackward
    exact ⟨by omega, by omega⟩
  have hne : inOrder (markedItems true true read) ≠ [] := by
    simp [inOrder_markedItems, anchoredList]
  rw [cost_sequence hne, inOrder_markedItems, anchoredList, total_append, total_append, between,
    Nested.wrap, cost, cost]
  obtain ⟨hforward, hbackward⟩ := htotal
  constructor
  · exact Nat.add_le_add_right (Nat.add_le_add_left hforward _) _
  · exact Nat.add_le_add_right (Nat.add_le_add_left hbackward _) _

/-- Marks are not nested, so that they make one more level at most. -/
theorem depth_marked_le (caret dollar : Bool) (read : List (Nested (Option Regex))) :
    (sequence (markedItems true true read)).depth ≤
      (between (sequence (markedItems caret dollar read))).depth := by
  refine Nested.depthOf_le fun x hx => ?_
  have hpart : x.depth = 0 ∨ x ∈ read := by
    simp only [markedItems, if_true, List.mem_append, List.mem_singleton] at hx
    rcases hx with (rfl | hx) | rfl
    · exact Or.inl rfl
    · exact Or.inr hx
    · exact Or.inl rfl
  rcases hpart with hzero | hx
  · rw [hzero]
    exact Nat.zero_le _
  · exact Nested.depth_le_depthOf (List.mem_append_left _ (List.mem_append_right _ hx))

example : (ofPattern? "(a)").map Nested.depth = some 1 ∧
    (ofPattern? "^(a)$").map Nested.depth = some 2 := by decide +kernel

/-- **The anchors take no more room in the text than around the expression.** -/
theorem isAccepted_marked {cs : List Char} {caret dollar : Bool} {r r' : Nested Regex}
    (h : isBranch cs = true)
    (hr : ofPattern? (String.ofList (marked caret dollar cs)) = some r)
    (hr' : ofPattern? (String.ofList (marked true true cs)) = some r')
    (hroom : isAccepted (between r) = true) : isAccepted r' = true := by
  obtain ⟨read, hread⟩ := exists_items_of_isBranch h
  obtain rfl := Option.some.inj ((hread caret dollar).symm.trans hr)
  obtain rfl := Option.some.inj ((hread true true).symm.trans hr')
  simp only [isAccepted, Bool.and_eq_true, decide_eq_true_eq] at hroom ⊢
  exact ⟨(depth_marked_le caret dollar read).trans hroom.1,
    isCompilable_of_le (cost_marked_le caret dollar read) hroom.2⟩

end Regex

end SmartForm
