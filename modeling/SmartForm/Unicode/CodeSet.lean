/-!
# Sets of characters

A `SmartForm.CodeSet` is a set of code points as a list of closed ranges,
ascending and neither touching nor overlapping. Character classes are computed
with the set operations below; the number of ranges matters too, because it
decides how large a compiled pattern gets.

Code points are natural numbers below `2 ^ 20 + 2 ^ 16`. The surrogates are not
characters: the universal set leaves them out, and so does every complement.

Tables of a standard are written as texts (`SmartForm.CodeSet.ofTable`): one word
per range, the distance from the end of the previous range and, after a hyphen,
the length of the range less one, both to the base thirty-six.
-/

namespace SmartForm

/-- Ascending closed ranges of code points. -/
abbrev CodeSet := List (Nat × Nat)

namespace CodeSet

/-- The largest code point. -/
def lastCode : Nat := 0x10FFFF

/-- All characters. -/
def full : CodeSet := [(0, 0xD7FF), (0xE000, lastCode)]

/-- One character. -/
def single (c : Char) : CodeSet := [(c.toNat, c.toNat)]

/-- Whether the code point belongs to the set. -/
def has (s : CodeSet) (n : Nat) : Bool := s.any fun r => r.1 ≤ n && n ≤ r.2

/-- Whether the character belongs to the set. -/
def hasChar (s : CodeSet) (c : Char) : Bool := s.has c.toNat

/-! ### Normal form -/

/-- Puts a range among ranges sorted by their first code point. -/
def insertRange (r : Nat × Nat) : CodeSet → CodeSet
  | [] => [r]
  | q :: rest => if r.1 ≤ q.1 then r :: q :: rest else q :: insertRange r rest

/-- Merges the ranges that touch or overlap; the list is sorted, and `r` is the
range that may still grow. -/
def mergeFrom (r : Nat × Nat) : CodeSet → CodeSet
  | [] => [r]
  | q :: rest =>
    if q.1 ≤ r.2 + 1 then mergeFrom (r.1, max r.2 q.2) rest else r :: mergeFrom q rest

/-- The set that some ranges, in any order, make up. Whatever lies among the
surrogates is cut off. -/
def ofRanges (rs : List (Nat × Nat)) : CodeSet :=
  let inside := rs.filter fun r => r.1 ≤ r.2
  let halves := inside.flatMap fun r =>
    [(r.1, min r.2 0xD7FF), (max r.1 0xE000, r.2)].filter fun q => q.1 ≤ q.2
  match halves.foldr insertRange [] with
  | [] => []
  | r :: rest => mergeFrom r rest

/-! ### Set operations -/

/-- The code points of either set. -/
def union (s t : CodeSet) : CodeSet := ofRanges (s ++ t)

/-- The gaps between ranges from `next` on. -/
def gapsFrom (next : Nat) : CodeSet → List (Nat × Nat)
  | [] => [(next, lastCode)]
  | r :: rest => (next, r.1 - 1) :: gapsFrom (r.2 + 1) rest

/-- The characters outside the set. -/
def complement (s : CodeSet) : CodeSet :=
  ofRanges (match s with
    | [] => [(0, lastCode)]
    | (0, b) :: rest => gapsFrom (b + 1) rest
    | s => gapsFrom 0 s)

/-- The code points of both sets. -/
def inter (s t : CodeSet) : CodeSet :=
  ofRanges (s.flatMap fun a => (t.filter fun b => a.1 ≤ b.2 && b.1 ≤ a.2).map fun b =>
    (max a.1 b.1, min a.2 b.2))

/-- The code points of the first set that the second one lacks. -/
def diff (s t : CodeSet) : CodeSet := s.inter t.complement

/-- The code points of exactly one of the sets. -/
def symmDiff (s t : CodeSet) : CodeSet := (s.diff t).union (t.diff s)

/-- Whether the set holds seven-bit characters only. -/
def isAscii (s : CodeSet) : Bool := s.all fun r => r.2 < 128

/-! ### Tables -/

/-- The value of a digit to the base thirty-six. -/
def tableDigit (c : Char) : Nat :=
  if c.isDigit then c.toNat - '0'.toNat else c.toNat - 'a'.toNat + 10

/-- The numbers of a table: runs of digits to the base thirty-six, with the
character that ends each one. Blanks between numbers may be repeated. -/
def tableNumbers (cs : List Char) : List (Nat × Char) :=
  let step := fun (state : Option Nat × List (Nat × Char)) c =>
    if c = ' ' ∨ c = '\n' ∨ c = '-' then
      match state.1 with
      | some n => (none, (n, c) :: state.2)
      | none => state
    else (some (36 * state.1.getD 0 + tableDigit c), state.2)
  (cs.foldl step (none, [])).2.reverse

/-- The ranges that a row of table numbers describes, `previous` being the end
of the range before. -/
def rangesOfTable (previous : Nat) : List (Nat × Char) → CodeSet
  | [] => []
  | (gap, sep) :: rest =>
    let first := previous + gap
    if sep = '-' then
      match rest with
      | (length, _) :: rest => (first, first + length) :: rangesOfTable (first + length) rest
      | [] => [(first, first)]
    else (first, first) :: rangesOfTable first rest

/-- The set written in a table. -/
def ofTable (table : String) : CodeSet := rangesOfTable 0 (tableNumbers (table.toList ++ [' ']))

end CodeSet

end SmartForm
