import SmartForm.Unicode.CodeSet

/-!
# Reading the tables of the character database from the front

A table is read as a whole: its numbers are collected behind one another and turned
round at the end (`SmartForm.CodeSet.tableNumbers`). The one thing to know to say
anything about a single character is that the ranges also come out one by one
(`SmartForm.CodeSet.tableNumbers_eq`), and that they ascend: no range behind some
point of the table begins before that point
(`SmartForm.CodeSet.has_rangesOfTable_of_lt`). So the first words of a table settle
the characters they reach, whatever stands behind them.
-/

namespace SmartForm

namespace CodeSet

/-- The numbers of a table from the front, `seen` being the value of the digits since
the last number. -/
def numbersFrom (seen : Option Nat) : List Char → List (Nat × Char)
  | [] => []
  | c :: cs =>
    if c = ' ' ∨ c = '\n' ∨ c = '-' then
      match seen with
      | some n => (n, c) :: numbersFrom none cs
      | none => numbersFrom none cs
    else numbersFrom (some (36 * seen.getD 0 + tableDigit c)) cs

theorem tableNumbers_eq (cs : List Char) : tableNumbers cs = numbersFrom none cs := by
  -- The numbers collected so far stand in front of those still to be read.
  suffices h : ∀ (seen : Option Nat) (found : List (Nat × Char)),
      (cs.foldl (fun (state : Option Nat × List (Nat × Char)) c =>
        if c = ' ' ∨ c = '\n' ∨ c = '-' then
          match state.1 with
          | some n => (none, (n, c) :: state.2)
          | none => state
        else (some (36 * state.1.getD 0 + tableDigit c), state.2)) (seen, found)).2.reverse
        = found.reverse ++ numbersFrom seen cs from h none []
  induction cs with
  | nil => simp [numbersFrom]
  | cons c cs ih =>
    intro seen found
    rw [List.foldl_cons, numbersFrom.eq_def]
    by_cases hc : c = ' ' ∨ c = '\n' ∨ c = '-'
    · cases seen with
      | none => simp only [if_pos hc, ih]
      | some n => simp only [if_pos hc, ih, List.reverse_cons, List.append_assoc,
          List.singleton_append]
    · simp only [if_neg hc, ih]

theorem has_cons (r : Nat × Nat) (s : CodeSet) (n : Nat) :
    has (r :: s) n = ((decide (r.1 ≤ n) && decide (n ≤ r.2)) || has s n) := rfl

theorem has_rangesOfTable_of_lt {n previous : Nat} (h : n < previous)
    (numbers : List (Nat × Char)) : has (rangesOfTable previous numbers) n = false := by
  induction previous, numbers using rangesOfTable.induct with
  | case1 => rfl
  | case2 previous gap first length _ rest ih =>
    have hfirst : ¬ previous + gap ≤ n := by omega
    have hbehind : has (rangesOfTable (previous + gap + length) rest) n = false := ih (by omega)
    simp [rangesOfTable, has_cons, hfirst, hbehind]
  | case3 previous gap =>
    have hfirst : ¬ previous + gap ≤ n := by omega
    simp [rangesOfTable, has, hfirst]
  | case4 previous gap sep rest first hsep ih =>
    have hfirst : ¬ previous + gap ≤ n := by omega
    have hbehind : has (rangesOfTable (previous + gap) rest) n = false := ih (by omega)
    rw [rangesOfTable.eq_def]
    simp [hsep, has_cons, hfirst, hbehind]

end CodeSet

end SmartForm
