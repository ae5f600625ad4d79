import SmartForm.Pattern.Regex

/-!
# The size of a compiled pattern

A pattern that would grow too large when compiled is refused, so its compiled size
is part of what a pattern means. The size is that of a nondeterministic automaton
over the bytes of the text, in which every counted repetition is written out, once
forward and once backward.

A state costs thirty-two bytes, a transition on a range of bytes eight more and a
branch four more. A set of characters that are not all seven-bit is an automaton of
its own, in which equal ends are shared forward and equal starts backward.
-/

namespace SmartForm

/-- A range of bytes. -/
abbrev ByteRange := Nat × Nat

namespace Utf8

/-! ### Characters as bytes -/

/-- The bytes of a character. -/
def bytes (n : Nat) : List Nat :=
  if n < 0x80 then [n]
  else if n < 0x800 then [0xC0 + n / 64, 0x80 + n % 64]
  else if n < 0x10000 then [0xE0 + n / 4096, 0x80 + n / 64 % 64, 0x80 + n % 64]
  else [0xF0 + n / 262144, 0x80 + n / 4096 % 64, 0x80 + n / 64 % 64, 0x80 + n % 64]

/-- Cuts a range so that all of its characters have equally many bytes. -/
def cutByLength (r : Nat × Nat) : List (Nat × Nat) :=
  [(0, 0x7F), (0x80, 0x7FF), (0x800, 0xFFFF), (0x10000, 0x10FFFF)].filterMap fun q =>
    if max r.1 q.1 ≤ min r.2 q.2 then some (max r.1 q.1, min r.2 q.2) else none

/-- Cuts a range so that, up to the last `level` bytes, either all bytes are equal
or the rest runs through all of its values. -/
def cutByBytes : Nat → Nat × Nat → List (Nat × Nat)
  | 0, r => [r]
  | level + 1, r =>
    let block := Nat.pow 64 (level + 1)
    if r.1 / block = r.2 / block then cutByBytes level r
    else
      let firstEnd := (r.1 / block + 1) * block - 1
      let lastStart := r.2 / block * block
      let head := if r.1 % block = 0 then none else some (r.1, firstEnd)
      let tail := if (r.2 + 1) % block = 0 then none else some (lastStart, r.2)
      let low := if head.isSome then firstEnd + 1 else r.1
      let high := if tail.isSome then lastStart else r.2 + 1
      (head.map (cutByBytes level)).getD []
        ++ (if low < high then [(low, high - 1)] else [])
        ++ (tail.map (cutByBytes level)).getD []

/-- The rows of byte ranges that write the characters of a set. -/
def sequences (s : CodeSet) : List (List ByteRange) :=
  s.flatMap fun r => (cutByLength r).flatMap fun r =>
    (cutByBytes ((bytes r.1).length - 1) r).map fun r => (bytes r.1).zip (bytes r.2)

/-! ### Shared ends and shared starts -/

/-- A state by its transitions, each with the number of the state it leads to. -/
abbrev State := List (ByteRange × Nat)

/-- The number of a state among numbered states, which it joins if it is new. -/
def number (state : State) (states : List State) : Nat × List State :=
  match states.findIdx? (· = state) with
  | some i => (states.length - i, states)
  | none => (states.length + 1, state :: states)

/-- Numbers the state from which the given rows lead on, and all states behind it;
the final state has the number `0`. -/
def numberRows : Nat → List (List ByteRange) → List State → Nat × List State
  | 0, _, states => (0, states)
  | fuel + 1, rows, states =>
    if rows.all List.isEmpty then (0, states)
    else
      let heads := (rows.filterMap List.head?).eraseDups
      let (state, states) := heads.foldl (fun (done, states) h =>
        let (n, states) := numberRows fuel
          (rows.filterMap fun row => if row.head? = some h then some row.tail else none) states
        ((h, n) :: done, states)) (([] : State), states)
      number state.reverse states

/-- The states, the final one left out, that read the rows with equal ends shared. -/
def forwardStates (rows : List (List ByteRange)) : List State := (numberRows 5 rows []).2

/-- How many states read the rows backward with equal starts shared: one for each
start of a row. -/
def backwardCount (rows : List (List ByteRange)) : Nat :=
  (rows.flatMap fun row => (List.range row.length).map fun n => row.take (n + 1)).eraseDups.length

end Utf8

namespace Regex

/-- What a compiled automaton costs in either direction. -/
structure Cost where
  /-- The bytes of the automaton that reads forward. -/
  forward : Nat
  /-- The bytes of the automaton that reads backward. -/
  backward : Nat
deriving DecidableEq, Repr

namespace Cost

/-- Nothing. -/
def zero : Cost := ⟨0, 0⟩

/-- The same in both directions. -/
def both (n : Nat) : Cost := ⟨n, n⟩

/-- The sum of two costs. -/
def add (a b : Cost) : Cost := ⟨a.forward + b.forward, a.backward + b.backward⟩

/-- A cost taken several times. -/
def times (n : Nat) (a : Cost) : Cost := ⟨n * a.forward, n * a.backward⟩

end Cost

/-- The cost of a state. -/
def stateCost : Nat := 32

/-- The cost of a branch with two ways. -/
def branchCost : Nat := stateCost + 8

/-- The cost of a set of characters. A single character is a row of its bytes. -/
def charsCost (s : CodeSet) : Cost :=
  match s with
  | [] => .both stateCost
  | [(a, b)] =>
    if a = b then .both ((Utf8.bytes a).length * stateCost) else setCost s
  | _ => setCost s
where
  /-- The cost of a set of several characters. -/
  setCost (s : CodeSet) : Cost :=
    if s.isAscii then .both (2 * stateCost + 8 * s.length)
    else
      let rows := Utf8.sequences s
      let states := Utf8.forwardStates rows
      ⟨(states.length + 1) * stateCost + 8 * states.foldl (fun n row => n + row.length) 0,
        (Utf8.backwardCount rows + 2) * stateCost + 4 * rows.length⟩

/-- Whether every match takes at least one character. -/
def takesSome : Regex → Bool
  | empty => false
  | chars _ => true
  | look _ => false
  | cat a b => a.takesSome || b.takesSome
  | alt a b => a.takesSome && b.takesSome
  | rep min _ r => 0 < min && r.takesSome
  | group r => r.takesSome

/-- The cost of a repetition of something with the given cost. -/
def repCost (min : Nat) (max : Option Nat) (takes : Bool) (c : Cost) : Cost :=
  match min, max with
  | 0, none => c.add (.both (if takes then branchCost else 2 * branchCost + stateCost))
  | n, none => (c.times n).add (.both branchCost)
  | 0, some 0 => .both stateCost
  | 0, some 1 => c.add (.both (branchCost + stateCost))
  | n, some m =>
    if m ≤ n then c.times n
    else
      (c.times m).add (.both (stateCost + (m - n) * branchCost + (if n = 0 then stateCost else 0)))

mutual

/-- The cost of an expression. -/
def cost : Regex → Cost
  | empty => .both stateCost
  | chars s => charsCost s
  | look _ => .both stateCost
  | cat a b => a.cost.add b.cost
  | alt a b => (a.cost.add (.both (2 * stateCost + 4))).add (waysCost b)
  | rep min max r => repCost min max r.takesSome r.cost
  | group r => r.cost.add ⟨2 * stateCost, 0⟩

/-- The cost of the further ways of a branch. -/
def waysCost : Regex → Cost
  | empty => .both (stateCost + 4)
  | chars s => (charsCost s).add (.both 4)
  | look _ => .both (stateCost + 4)
  | cat a b => (a.cost.add b.cost).add (.both 4)
  | alt a b => (a.cost.add (.both 4)).add (waysCost b)
  | rep min max r => (repCost min max r.takesSome r.cost).add (.both 4)
  | group r => r.cost.add ⟨2 * stateCost + 4, 4⟩

end

/-- The largest automaton that is accepted. -/
def sizeLimit : Nat := 10 * Nat.pow 2 20

/-- Whether the compiled expression is small enough. The whole match is a group of
its own, and each automaton has a final state. -/
def isCompilable (r : Regex) : Bool :=
  let c := r.cost
  c.forward + 3 * stateCost ≤ sizeLimit && c.backward + stateCost ≤ sizeLimit

end Regex

end SmartForm
