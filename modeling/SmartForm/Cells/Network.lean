import SmartForm.Cells.Watched
import SmartForm.Validation.Validator

/-!
# Cells

A `SmartForm.Cell` holds the value of a field together with the value it started
with and the validators of the field. Cells in a `SmartForm.CellNetwork` also have
**reactions**, which run one after the other whenever the cell is *set*
(`SmartForm.CellNetwork.set`), not when it is merely *published*
(`SmartForm.CellNetwork.publish`).

A `SmartForm.Reaction` is anything that can be done with a value: a
`SmartForm.Script` of notes, writes to cells and further reactions, in which every
step may depend on what the cells hold by then. What a reaction has to remember
from one run to the next it keeps in a cell of its own.

A run of reactions is fixed at its beginning: every reaction gets the value that
the cell was set to, whatever earlier reactions did, and a reaction that is added
meanwhile waits for the next time. A reaction may set another cell, whose
reactions then run in between; so reactions nest as deep as cells are linked, and
on links without a cycle the number of cells bounds the depth.

A cell lives as long as a name stands for it. Reactions do not keep the cells
alive that they write to: a reaction whose target is gone does nothing.
-/

namespace SmartForm

/-! ### Single cells -/

/-- The value of a field. -/
structure Cell where
  /-- The present value. -/
  current : Watched Json
  /-- The value at the start. -/
  initial : Json
  /-- What the value has to keep. -/
  chain : List Validator := []
deriving Repr, Inhabited

namespace Cell

/-- A cell with the given value. -/
def start (initial : Json) (chain : List Validator) : Cell := ⟨⟨initial, 0⟩, initial, chain⟩

/-- The present value. -/
def value (c : Cell) : Json := c.current.value

/-- Writes a value. -/
def write (c : Cell) (v : Json) : Cell := { c with current := c.current.write v }

/-- What the present value does wrong. -/
def violations (c : Cell) : List Violation := Validator.violations c.chain c.value

/-- Whether the present value does nothing wrong. -/
def isValid (c : Cell) : Bool := c.violations.isEmpty

end Cell

/-! ### Networks -/

/-- What is done with a value, one thing after the other. Cells are known by number. -/
inductive Script where
  /-- Nothing more. -/
  | done
  /-- A value is noted under a tag. -/
  | note (tag : String) (v : Json) (next : Script)
  /-- A cell is set. -/
  | set (target : Nat) (v : Json) (next : Script)
  /-- A value is published in a cell. -/
  | publish (target : Nat) (v : Json) (next : Script)
  /-- The cell itself gets one more reaction: what it does with the values to come. -/
  | grow (reaction : Json → Script) (next : Script)
  /-- What comes next depends on a cell as it is now. -/
  | look (target : Nat) (next : Option Cell → Script)

/-- What happens when a cell is set, for each value that it may be set to. -/
def Reaction : Type := Json → Script

namespace Reaction

/-- The value is noted under a tag. -/
def note (tag : String) : Reaction := fun v => .note tag v .done

/-- Another cell is set to the value. -/
def set (target : Nat) : Reaction := fun v => .set target v .done

/-- The value is published in another cell. -/
def publish (target : Nat) : Reaction := fun v => .publish target v .done

/-- The cell itself gets one more reaction, which notes values under a tag. -/
def grow (tag : String) : Reaction := fun _ => .grow (note tag) .done

end Reaction

/-- A cell with its reactions in the order in which they were added. -/
structure CellNode where
  /-- The cell. -/
  cell : Cell
  /-- What happens when it is set. -/
  reactions : List Reaction := []
deriving Inhabited

/-- Cells, the names that keep them alive, and what their reactions have noted. -/
structure CellNetwork where
  /-- All cells that have ever been there, by number. -/
  nodes : Array CellNode := #[]
  /-- The names with the numbers of their cells. -/
  names : List (String × Nat) := []
  /-- What was noted, the latest first: a tag and a value. -/
  notes : List (String × Json) := []
deriving Inhabited

namespace CellNetwork

/-- The number of the cell that a name stands for. -/
def find? (n : CellNetwork) (name : String) : Option Nat := n.names.lookup name

/-- The cell with the given number. -/
def cell? (n : CellNetwork) (i : Nat) : Option Cell := n.nodes[i]?.map CellNode.cell

/-- Whether a cell is alive. -/
def isAlive (n : CellNetwork) (i : Nat) : Bool := n.names.any fun e => e.2 = i

/-- Changes the cell with the given number. -/
def modify (n : CellNetwork) (i : Nat) (f : CellNode → CellNode) : CellNetwork :=
  { n with nodes := n.nodes.modify i f }

/-! #### Names -/

/-- Lets a name stand for a cell. What it stood for before loses the name. -/
def bind (n : CellNetwork) (name : String) (i : Nat) : CellNetwork :=
  { n with names := (name, i) :: n.names.filter fun e => e.1 ≠ name }

/-- Adds a cell under a name. -/
def add (n : CellNetwork) (name : String) (c : Cell) : CellNetwork :=
  { n with nodes := n.nodes.push { cell := c } }.bind name n.nodes.size

/-- Takes a name away. -/
def drop (n : CellNetwork) (name : String) : CellNetwork :=
  { n with names := n.names.filter fun e => e.1 ≠ name }

/-! #### Writing -/

/-- Adds a reaction to a cell, behind those that it has. -/
def addReaction (n : CellNetwork) (i : Nat) (r : Reaction) : CellNetwork :=
  n.modify i fun x => { x with reactions := x.reactions ++ [r] }

/-- Writes a value into a cell without running reactions. -/
def publish (n : CellNetwork) (i : Nat) (v : Json) : CellNetwork :=
  n.modify i fun x => { x with cell := x.cell.write v }

/-- The reactions of a cell. -/
def reactionsOf (n : CellNetwork) (i : Nat) : List Reaction :=
  (n.nodes[i]?.map CellNode.reactions).getD []

/-- Does what a script says on behalf of a cell; `set` is how other cells are set. A cell that
is gone is neither written nor looked at. -/
def perform (set : CellNetwork → Nat → Json → CellNetwork) (own : Nat) :
    Script → CellNetwork → CellNetwork
  | .done, n => n
  | .note tag v next, n => perform set own next { n with notes := (tag, v) :: n.notes }
  | .set target v next, n =>
    perform set own next (if n.isAlive target then set n target v else n)
  | .publish target v next, n =>
    perform set own next (if n.isAlive target then n.publish target v else n)
  | .grow r next, n => perform set own next (n.addReaction own r)
  | .look target next, n =>
    perform set own (next (if n.isAlive target then n.cell? target else none)) n

/-- Sets a cell, reactions nesting to at most the given depth. -/
def setWithin : Nat → CellNetwork → Nat → Json → CellNetwork
  | 0, n, _, _ => n
  | depth + 1, n, i, v =>
    (n.reactionsOf i).foldl (fun n r => perform (setWithin depth) i (r v) n) (n.publish i v)

/-- Writes a value into a cell and runs its reactions. -/
def set (n : CellNetwork) (i : Nat) (v : Json) : CellNetwork :=
  setWithin (n.nodes.size + 1) n i v

/-- Sets a cell to the value that it started with. -/
def reset (n : CellNetwork) (i : Nat) : CellNetwork :=
  match n.cell? i with
  | some c => n.set i c.initial
  | none => n

end CellNetwork

end SmartForm
