import Mathlib.Data.List.Basic
import SmartForm.Pattern.Regex

/-!
# What an expression matches

`SmartForm.Regex.Matches` says, constructor by constructor, between which positions of a text
an expression matches, with no regard to how such positions are found. The matcher finds
exactly these (`SmartForm.Regex.isImage_ends`), so that it tells whether there is a match
anywhere in a text (`SmartForm.Regex.isMatch_iff`).

The one thing to know is why repetitions come to an end. A repetition without a limit is
followed no more often than the text is long, which is often enough: a turn that takes no
character changes nothing and can be left out, and all others go forward
(`SmartForm.Regex.Times.shorten`). On the way, a position that has been reached before is not
followed again. What lies behind it lies behind a position that is still to be followed, or
has been reached as well (`SmartForm.Regex.Times.leaves`).
-/

namespace SmartForm

namespace Regex

/-! ### Repetition of a relation -/

/-- From one position to another in some number of turns. -/
def Times (R : Nat → Nat → Prop) : Nat → Nat → Nat → Prop
  | 0, i, j => i = j
  | n + 1, i, j => ∃ k, R i k ∧ Times R n k j

/-- **The meaning of an expression**: it matches the part of a text between two positions. A
limit of a repetition that lies below the least count is as good as that count. -/
def Matches (text : Array Char) : Regex → Nat → Nat → Prop
  | empty, i, j => i = j
  | chars set, i, j => j = i + 1 ∧ text[i]?.any set.hasChar = true
  | look l, i, j => i = j ∧ holds text i l = true
  | cat a b, i, j => ∃ k, a.Matches text i k ∧ b.Matches text k j
  | alt a b, i, j => a.Matches text i j ∨ b.Matches text i j
  | rep least most r, i, j =>
    ∃ n, least ≤ n ∧ (∀ m ∈ most, n ≤ max least m) ∧ Times (r.Matches text) n i j
  | group r, i, j => r.Matches text i j

/-- An expression matches a text from its start to its end. -/
def MatchesWhole (r : Regex) (s : String) : Prop :=
  r.Matches s.toList.toArray 0 s.toList.toArray.size

section Times

variable {R : Nat → Nat → Prop} {i j k m n : Nat}

theorem Times.trans (h : Times R m i k) (h' : Times R n k j) : Times R (m + n) i j := by
  induction m generalizing i with
  | zero =>
    obtain rfl : i = k := h
    rwa [Nat.zero_add]
  | succ m ih =>
    obtain ⟨l, hfirst, hrest⟩ := h
    rw [Nat.succ_add]
    exact ⟨l, hfirst, ih hrest⟩

theorem Times.split (h : Times R (m + n) i j) : ∃ k, Times R m i k ∧ Times R n k j := by
  induction m generalizing i with
  | zero =>
    rw [Nat.zero_add] at h
    exact ⟨i, rfl, h⟩
  | succ m ih =>
    rw [Nat.succ_add] at h
    obtain ⟨l, hfirst, hrest⟩ := h
    obtain ⟨k, hbefore, hafter⟩ := ih hrest
    exact ⟨k, ⟨l, hfirst, hbefore⟩, hafter⟩

/-- A relation between positions of a text that goes forward, and not beyond the end. -/
structure Forward (size : Nat) (R : Nat → Nat → Prop) : Prop where
  /-- It does not go back. -/
  le : ∀ i j, R i j → i ≤ j
  /-- Where it goes on, it stays within the text. -/
  le_size : ∀ i j, R i j → i < j → j ≤ size

theorem Forward.times {size : Nat} (hR : Forward size R) (n : Nat) : Forward size (Times R n) := by
  induction n with
  | zero =>
    refine ⟨fun i j h => Nat.le_of_eq h, fun i j h hlt => ?_⟩
    obtain rfl : i = j := h
    exact absurd hlt (Nat.lt_irrefl i)
  | succ n ih =>
    refine ⟨fun i j h => ?_, fun i j h hlt => ?_⟩
    · obtain ⟨k, hfirst, hrest⟩ := h
      exact Nat.le_trans (hR.le i k hfirst) (ih.le k j hrest)
    · obtain ⟨k, hfirst, hrest⟩ := h
      rcases Nat.eq_or_lt_of_le (ih.le k j hrest) with rfl | hlt'
      · exact hR.le_size i k hfirst hlt
      · exact ih.le_size k j hrest hlt'

/-- **Turns that take nothing can be left out**, so there need be no more turns than there are
positions in between. -/
theorem Times.shorten {size : Nat} (hR : Forward size R) (h : Times R n i j) :
    ∃ m, m ≤ n ∧ m ≤ j - i ∧ Times R m i j := by
  induction n generalizing i with
  | zero => exact ⟨0, Nat.le_refl 0, Nat.zero_le _, h⟩
  | succ n ih =>
    obtain ⟨k, hfirst, hrest⟩ := h
    obtain ⟨m, hmn, hm, htimes⟩ := ih hrest
    rcases Nat.eq_or_lt_of_le (hR.le i k hfirst) with rfl | hlt
    · exact ⟨m, Nat.le_succ_of_le hmn, hm, htimes⟩
    · have hkj : k ≤ j := (hR.times n).le k j hrest
      exact ⟨m + 1, Nat.succ_le_succ hmn, by omega, k, hfirst, htimes⟩

/-- A set of positions is left only through its front. -/
structure IsFront (R : Nat → Nat → Prop) (reached front : List Nat) : Prop where
  /-- The front has been reached. -/
  mem : ∀ q ∈ front, q ∈ reached
  /-- What lies behind any other position has been reached as well. -/
  closed : ∀ q ∈ reached, q ∉ front → ∀ p, R q p → p ∈ reached

/-- A way out of a set leads through its front. -/
theorem Times.leaves {reached front : List Nat} (hfront : IsFront R reached front)
    (hi : i ∈ reached) (h : Times R n i j) :
    j ∈ reached ∨ ∃ m ≤ n, ∃ q ∈ front, Times R m q j := by
  induction n generalizing i with
  | zero =>
    obtain rfl : i = j := h
    exact Or.inl hi
  | succ n ih =>
    by_cases hmem : i ∈ front
    · exact Or.inr ⟨n + 1, Nat.le_refl _, i, hmem, h⟩
    · obtain ⟨k, hfirst, hrest⟩ := h
      rcases ih (hfront.closed i hi hmem k hfirst) hrest with hj | ⟨m, hm, q, hq, htimes⟩
      · exact Or.inl hj
      · exact Or.inr ⟨m, Nat.le_succ_of_le hm, q, hq, htimes⟩

section Next

variable {reached front next : List Nat}

theorem mem_append_next (hnext : ∀ q, q ∈ next ↔ (∃ i ∈ front, R i q) ∧ q ∉ reached) {q p : Nat}
    (hq : q ∈ front) (hp : R q p) : p ∈ reached ++ next := by
  by_cases hreached : p ∈ reached
  · exact List.mem_append_left next hreached
  · exact List.mem_append_right reached ((hnext p).mpr ⟨⟨q, hq, hp⟩, hreached⟩)

/-- The front goes on to what lies behind it and has not been reached. -/
theorem IsFront.advance (hfront : IsFront R reached front)
    (hnext : ∀ q, q ∈ next ↔ (∃ i ∈ front, R i q) ∧ q ∉ reached) :
    IsFront R (reached ++ next) next where
  mem q hq := List.mem_append_right reached hq
  closed q hq hqnext p hp := by
    have hqreached : q ∈ reached := (List.mem_append.mp hq).resolve_right hqnext
    by_cases hqfront : q ∈ front
    · exact mem_append_next hnext hqfront hp
    · exact List.mem_append_left next (hfront.closed q hqreached hqfront p hp)

/-- When the front goes on, one turn has been followed. -/
theorem IsFront.reaches_iff (hfront : IsFront R reached front)
    (hnext : ∀ q, q ∈ next ↔ (∃ i ∈ front, R i q) ∧ q ∉ reached) :
    (j ∈ reached ++ next ∨ ∃ m ≤ n, ∃ i ∈ next, Times R m i j) ↔
      j ∈ reached ∨ ∃ m ≤ n + 1, ∃ i ∈ front, Times R m i j := by
  constructor
  · rintro (hj | ⟨m, hm, q, hq, htimes⟩)
    · rcases List.mem_append.mp hj with hj | hj
      · exact Or.inl hj
      · obtain ⟨⟨i, hi, hfirst⟩, -⟩ := (hnext j).mp hj
        exact Or.inr ⟨1, Nat.succ_le_succ (Nat.zero_le n), i, hi, j, hfirst, rfl⟩
    · obtain ⟨⟨i, hi, hfirst⟩, -⟩ := (hnext q).mp hq
      exact Or.inr ⟨m + 1, Nat.succ_le_succ hm, i, hi, q, hfirst, htimes⟩
  · rintro (hj | ⟨m, hm, i, hi, htimes⟩)
    · exact Or.inl (List.mem_append_left next hj)
    · cases m with
      | zero =>
        obtain rfl : i = j := htimes
        exact Or.inl (List.mem_append_left next (hfront.mem i hi))
      | succ m =>
        obtain ⟨k, hfirst, hrest⟩ := htimes
        rcases hrest.leaves (hfront.advance hnext) (mem_append_next hnext hi hfirst) with
          hj | ⟨l, hl, q, hq, htimes⟩
        · exact Or.inl hj
        · exact Or.inr ⟨l, Nat.le_trans hl (Nat.le_of_succ_le_succ hm), q, hq, htimes⟩

end Next

end Times

/-! ### Images -/

/-- A function on sets of positions takes the image under a relation. -/
def IsImage (f : List Nat → List Nat) (R : Nat → Nat → Prop) : Prop :=
  ∀ ps j, j ∈ f ps ↔ ∃ i ∈ ps, R i j

section Images

variable {f : List Nat → List Nat} {R : Nat → Nat → Prop}

theorem mem_join {ps qs : List Nat} {j : Nat} : j ∈ join ps qs ↔ j ∈ ps ∨ j ∈ qs := by
  rw [join, List.mem_append, List.mem_filter]
  by_cases h : j ∈ ps <;> simp [h]

theorem power_of_fixed {ps : List Nat} (h : f ps = ps) (n : Nat) : power f n ps = ps := by
  cases n with
  | zero => rfl
  | succ n => rw [power, h, if_pos rfl]

theorem power_succ (f : List Nat → List Nat) (n : Nat) (ps : List Nat) :
    power f (n + 1) ps = power f n (f ps) := by
  by_cases h : f ps = ps
  · rw [h, power_of_fixed h, power_of_fixed h]
  · rw [power, if_neg h]

theorem isImage_power (hf : IsImage f R) (n : Nat) : IsImage (power f n) (Times R n) := by
  induction n with
  | zero =>
    intro ps j
    simp [power, Times]
  | succ n ih =>
    intro ps j
    rw [power_succ, ih]
    constructor
    · rintro ⟨k, hk, htimes⟩
      obtain ⟨i, hi, hfirst⟩ := (hf ps k).mp hk
      exact ⟨i, hi, k, hfirst, htimes⟩
    · rintro ⟨i, hi, k, hfirst, htimes⟩
      exact ⟨k, (hf ps k).mpr ⟨i, hi, hfirst⟩, htimes⟩

/-- The closure adds what is reached from the front. -/
theorem mem_closure (hf : IsImage f R) {n : Nat} {reached front : List Nat}
    (hfront : IsFront R reached front) {j : Nat} :
    j ∈ closure f n reached front ↔ j ∈ reached ∨ ∃ m ≤ n, ∃ i ∈ front, Times R m i j := by
  induction n generalizing reached front with
  | zero =>
    rw [closure]
    refine ⟨Or.inl, ?_⟩
    rintro (hj | ⟨m, hm, i, hi, htimes⟩)
    · exact hj
    · obtain rfl := Nat.le_zero.mp hm
      obtain rfl : i = j := htimes
      exact hfront.mem i hi
  | succ n ih =>
    have hnext : ∀ q, q ∈ (f front).filter (fun q => !reached.contains q) ↔
        (∃ i ∈ front, R i q) ∧ q ∉ reached := by
      intro q
      rw [List.mem_filter, hf]
      simp
    rw [closure]
    generalize (f front).filter (fun q => !reached.contains q) = next at hnext
    rw [← hfront.reaches_iff hnext]
    split
    · next hempty =>
      -- Nothing new is reached, so that nothing lies behind the front.
      obtain rfl := List.isEmpty_iff.mp hempty
      simp
    · exact ih (hfront.advance hnext)

/-- A closure that starts from its own front takes the image under up to so many turns. -/
theorem isImage_closure (hf : IsImage f R) (n : Nat) :
    IsImage (fun ps => closure f n ps ps) fun i j => ∃ m ≤ n, Times R m i j := by
  intro ps j
  rw [mem_closure hf ⟨fun q hq => hq, fun q hq hnot => absurd hq hnot⟩]
  constructor
  · rintro (hj | ⟨m, hm, i, hi, htimes⟩)
    · exact ⟨j, hj, 0, Nat.zero_le n, rfl⟩
    · exact ⟨i, hi, m, hm, htimes⟩
  · rintro ⟨i, hi, m, hm, htimes⟩
    exact Or.inr ⟨m, hm, i, hi, htimes⟩

end Images

/-! ### The matcher -/

section Matcher

variable {text : Array Char} {i j : Nat}

/-- An expression that takes nothing goes nowhere. -/
theorem forward_of_eq {R : Nat → Nat → Prop} {size : Nat} (h : ∀ i j, R i j → i = j) :
    Forward size R where
  le i j hij := Nat.le_of_eq (h i j hij)
  le_size i j hij hlt := absurd (h i j hij) (Nat.ne_of_lt hlt)

theorem forward_matches (text : Array Char) (r : Regex) :
    Forward text.size (r.Matches text) := by
  induction r with
  | empty => exact forward_of_eq fun i j h => h
  | chars set =>
    refine ⟨fun i j h => ?_, fun i j h hlt => ?_⟩
    · obtain ⟨rfl, -⟩ := h
      exact Nat.le_succ i
    · obtain ⟨rfl, hset⟩ := h
      by_contra hsize
      rw [Array.getElem?_eq_none (by omega)] at hset
      cases hset
  | look l => exact forward_of_eq fun i j h => h.1
  | cat a b iha ihb =>
    refine ⟨fun i j h => ?_, fun i j h hlt => ?_⟩
    · obtain ⟨k, ha, hb⟩ := h
      exact Nat.le_trans (iha.le i k ha) (ihb.le k j hb)
    · obtain ⟨k, ha, hb⟩ := h
      rcases Nat.eq_or_lt_of_le (ihb.le k j hb) with rfl | hlt'
      · exact iha.le_size i k ha hlt
      · exact ihb.le_size k j hb hlt'
  | alt a b iha ihb =>
    exact ⟨fun i j h => h.elim (iha.le i j) (ihb.le i j),
      fun i j h hlt => h.elim (iha.le_size i j · hlt) (ihb.le_size i j · hlt)⟩
  | rep least most r ih =>
    refine ⟨fun i j h => ?_, fun i j h hlt => ?_⟩
    · obtain ⟨n, -, -, htimes⟩ := h
      exact (ih.times n).le i j htimes
    · obtain ⟨n, -, -, htimes⟩ := h
      exact (ih.times n).le_size i j htimes hlt
  | group r ih => exact ⟨ih.le, ih.le_size⟩

/-- How many turns follow the least count, when a limit is there and when there is none. -/
def further (text : Array Char) (least : Nat) : Option Nat → Nat
  | none => text.size + 1
  | some m => m - least

/-- Turns within the limit are the least count of turns and further ones. -/
theorem matches_rep_iff (least : Nat) (most : Option Nat) (r : Regex) :
    (rep least most r).Matches text i j ↔
      ∃ k, Times (r.Matches text) least i k ∧
        ∃ m ≤ further text least most, Times (r.Matches text) m k j := by
  constructor
  · rintro ⟨n, hleast, hmost, htimes⟩
    obtain ⟨m, rfl⟩ := Nat.exists_eq_add_of_le hleast
    obtain ⟨k, hbefore, hafter⟩ := htimes.split
    refine ⟨k, hbefore, ?_⟩
    cases most with
    | some l =>
      have hl := hmost l rfl
      exact ⟨m, by rw [further]; omega, hafter⟩
    | none =>
      have hR := forward_matches text r
      obtain ⟨m', -, hm', hafter'⟩ := hafter.shorten hR
      have hsize := (hR.times m').le_size k j hafter'
      exact ⟨m', by rw [further]; omega, hafter'⟩
  · rintro ⟨k, hbefore, m, hm, hafter⟩
    refine ⟨least + m, Nat.le_add_right least m, fun l hl => ?_, hbefore.trans hafter⟩
    obtain rfl := Option.mem_def.mp hl
    rw [further] at hm
    omega

/-- **The matcher finds what an expression matches.** -/
theorem isImage_ends (text : Array Char) (r : Regex) :
    IsImage (ends text r) (r.Matches text) := by
  induction r with
  | empty =>
    intro ps j
    simp [ends, Matches]
  | chars set =>
    intro ps j
    rw [ends, List.mem_filterMap]
    refine exists_congr fun i => and_congr_right fun _ => ?_
    rw [Matches]
    by_cases h : text[i]?.any set.hasChar = true
    · simp [h, eq_comm]
    · simp [h]
  | look l =>
    intro ps j
    rw [ends, List.mem_filter]
    constructor
    · rintro ⟨hj, hholds⟩
      exact ⟨j, hj, rfl, hholds⟩
    · rintro ⟨i, hi, rfl, hholds⟩
      exact ⟨hi, hholds⟩
  | cat a b iha ihb =>
    intro ps j
    rw [ends, ihb]
    constructor
    · rintro ⟨k, hk, hb⟩
      obtain ⟨i, hi, ha⟩ := (iha ps k).mp hk
      exact ⟨i, hi, k, ha, hb⟩
    · rintro ⟨i, hi, k, ha, hb⟩
      exact ⟨k, (iha ps k).mpr ⟨i, hi, ha⟩, hb⟩
  | alt a b iha ihb =>
    intro ps j
    rw [ends, mem_join, iha, ihb]
    constructor
    · rintro (⟨i, hi, h⟩ | ⟨i, hi, h⟩)
      · exact ⟨i, hi, Or.inl h⟩
      · exact ⟨i, hi, Or.inr h⟩
    · rintro ⟨i, hi, h | h⟩
      · exact Or.inl ⟨i, hi, h⟩
      · exact Or.inr ⟨i, hi, h⟩
  | rep least most r ih =>
    intro ps j
    have hends : ends text (rep least most r) ps =
        closure (ends text r) (further text least most) (power (ends text r) least ps)
          (power (ends text r) least ps) := by
      cases most <;> rfl
    rw [hends, isImage_closure ih]
    constructor
    · rintro ⟨k, hk, hafter⟩
      obtain ⟨i, hi, hbefore⟩ := (isImage_power ih least ps k).mp hk
      exact ⟨i, hi, (matches_rep_iff least most r).mpr ⟨k, hbefore, hafter⟩⟩
    · rintro ⟨i, hi, h⟩
      obtain ⟨k, hbefore, hafter⟩ := (matches_rep_iff least most r).mp h
      exact ⟨k, (isImage_power ih least ps k).mpr ⟨i, hi, hbefore⟩, hafter⟩
  | group r ih => exact ih

/-- **An expression matches a text if there is a match anywhere in it.** -/
theorem isMatch_iff {r : Regex} {s : String} :
    r.isMatch s = true ↔
      ∃ i j, i ≤ s.toList.toArray.size ∧ r.Matches s.toList.toArray i j := by
  have hends : r.isMatch s = true ↔
      ∃ j, j ∈ ends s.toList.toArray r (List.range (s.toList.toArray.size + 1)) := by
    rw [isMatch]
    simp [List.eq_nil_iff_forall_not_mem]
  rw [hends]
  simp only [isImage_ends s.toList.toArray r _ _, List.mem_range, Nat.lt_succ_iff]
  exact ⟨fun ⟨j, i, hi, h⟩ => ⟨i, j, hi, h⟩, fun ⟨i, j, hi, h⟩ => ⟨j, i, hi, h⟩⟩

/-- A match of a whole text is one that may end where the text ends. -/
theorem matchesWhole_iff {r : Regex} {s : String} :
    r.MatchesWhole s ↔ s.toList.toArray.size ∈ ends s.toList.toArray r [0] := by
  rw [isImage_ends s.toList.toArray r, MatchesWhole]
  simp only [List.mem_singleton, exists_eq_left]

instance (r : Regex) (s : String) : Decidable (r.MatchesWhole s) :=
  decidable_of_iff _ matchesWhole_iff.symm

end Matcher

end Regex

end SmartForm
