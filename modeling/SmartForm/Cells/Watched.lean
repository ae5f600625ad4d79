/-!
# Watched values

A `SmartForm.Watched` value counts how often it was written, so that somebody who
remembers the count can tell whether there is anything new. A
`SmartForm.Watcher` is such a somebody. It can look at the value at any time
(`SmartForm.Watcher.look`), or take it as one of a row of values
(`SmartForm.Watcher.next`); in both cases it only ever sees the latest value, and
writes in between are lost. A value that is written again as it was counts as
written.

Whether the value can still be written is not known to the value itself. Once it
cannot, a watcher finds it **closed**.
-/

namespace SmartForm

/-- A value and how often it was written. -/
structure Watched (α : Type) where
  /-- The value. -/
  value : α
  /-- How often the value was written. -/
  writes : Nat := 0
deriving Repr, Inhabited

namespace Watched

variable {α : Type}

/-- Writes a value. -/
def write (x : Watched α) (a : α) : Watched α := ⟨a, x.writes + 1⟩

/-- Writes a value made of the present one. -/
def modify (x : Watched α) (f : α → α) : Watched α := x.write (f x.value)

end Watched

/-- Somebody who watches a value. -/
structure Watcher where
  /-- How many writes have been seen. -/
  seen : Nat
  /-- Whether the value counts as new although nothing was written. -/
  eager : Bool := false
deriving DecidableEq, Repr, Inhabited

/-- What a watcher learns by looking. -/
inductive Notice where
  /-- The value was written since the last look. -/
  | changed
  /-- The value was not written since the last look. -/
  | unchanged
  /-- The value cannot be written any more. -/
  | closed
deriving DecidableEq, Repr

/-- What comes next in a row of values. -/
inductive Upcoming (α : Type) where
  /-- A value that has not been seen. -/
  | item (a : α)
  /-- Nothing yet. -/
  | pending
  /-- Nothing any more. -/
  | finished
deriving DecidableEq, Repr

namespace Watcher

variable {α : Type}

/-- A watcher that has seen the present value. -/
def of (x : Watched α) : Watcher := ⟨x.writes, false⟩

/-- A watcher to whom the present value is new. -/
def eagerOf (x : Watched α) : Watcher := ⟨x.writes, true⟩

/-- Looks at the value. -/
def look (w : Watcher) (x : Watched α) (isOpen : Bool) : Watcher × Notice :=
  (of x, if !isOpen then .closed else if x.writes = w.seen then .unchanged else .changed)

/-- Takes the next value. What has not been seen comes before the end. -/
def next (w : Watcher) (x : Watched α) (isOpen : Bool) : Watcher × Upcoming α :=
  if w.eager || x.writes != w.seen then (of x, .item x.value)
  else if isOpen then (w, .pending)
  else (w, .finished)

end Watcher

end SmartForm
