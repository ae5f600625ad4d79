import SmartForm.Pattern.Regex

/-!
# How deeply a pattern is nested

A pattern that is nested too deeply is refused, so it is read together with the depth of
each of its parts (`SmartForm.Nested`).

A character, a class with a name, an anchor and a directive are not nested. A group, a
repetition and a bracketed class are one level deeper than what is in them. So are
several parts side by side (`SmartForm.Nested.depthOf`): the items of a branch, the
branches of a pattern or of a group, and the items of a class.
-/

namespace SmartForm

/-- What a part of a pattern stands for, and how deeply the part is nested. -/
structure Nested (α : Type) where
  /-- What it stands for. -/
  val : α
  /-- The number of its levels. -/
  depth : Nat := 0
deriving DecidableEq, Repr

namespace Nested

variable {α β : Type}

/-- A part with something around it. -/
def wrap (k : α → β) (x : Nested α) : Nested β := ⟨k x.val, x.depth + 1⟩

/-- The depth of parts side by side, which is that of the part if there is only one. -/
def depthOf : List (Nested α) → Nat
  | [] => 0
  | [x] => x.depth
  | xs => (xs.map depth).foldr max 0 + 1

end Nested

namespace Regex

/-- The greatest depth of a pattern. -/
def nestLimit : Nat := 250

/-- Expressions one after the other; the last one comes first in the list. A
directive leaves a place without an expression behind. -/
def sequence (done : List (Nested (Option Regex))) : Nested Regex where
  val := match done.filterMap Nested.val with
    | [] => .empty
    | last :: before => before.foldl (fun r a => .cat a r) last
  depth := Nested.depthOf done

/-- Expressions of which one is to match. -/
def anyOf : List Regex → Regex
  | [] => .empty
  | [r] => r
  | r :: rs => .alt r (anyOf rs)

/-- The branches of a pattern or of a group. -/
def alternation (branches : List (Nested Regex)) : Nested Regex where
  val := anyOf (branches.map Nested.val)
  depth := Nested.depthOf branches

end Regex

end SmartForm
