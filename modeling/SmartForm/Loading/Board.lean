import SmartForm.Catalog.Choices
import SmartForm.Cells.Network
import SmartForm.Loading.Store

/-!
# Boards

A `SmartForm.Board` puts cells and loaded choices together. A **link** lets the
choices of one cell, the child, depend on the value of another one, the parent:
whenever the parent is set, the child loses its value and its choices, and unless
the parent was emptied they are loaded anew for the parent's value
(`SmartForm.Board.set`). Only the direct children of a cell are touched. The lost
value is published, not set, so the children of a child stay as they are.

A **load** is known by its key and its token. It is on the board from the moment in
which it is started until it is finished (`SmartForm.Board.finish`) or aborted
(`SmartForm.Board.abort`). A link aborts the load that it started before as soon as
its parent is set again.

A cell may be taken away while the rest goes on (`SmartForm.Board.drop`). A link to
a child that is gone does nothing; the links of a parent go with it.
-/

namespace SmartForm

/-- A cell that can be taken away. -/
structure BoardCell where
  /-- The cell; the last one if it was taken away. -/
  cell : Cell
  /-- Whether the cell is still there. -/
  isAlive : Bool := true
deriving Repr, Inhabited

/-- The choices of a child depend on the value of a parent. -/
structure Link where
  /-- The key of the parent. -/
  parent : String
  /-- The key of the child. -/
  child : String
  /-- Where the choices are loaded from. -/
  binding : Binding
  /-- The token of the load that was started last. -/
  inFlight : Option Nat := none
deriving Repr, Inhabited

/-- A load under way. -/
structure Load where
  /-- The key whose choices are loaded. -/
  key : String
  /-- The token of the load. -/
  token : Nat
  /-- Where the choices are loaded from. -/
  binding : Binding
  /-- The value that they depend on. -/
  dependency : Option Json
deriving Repr, Inhabited

/-- Cells, their choices, and the links between them. -/
structure Board where
  /-- The cells by key, in the order in which they were made. -/
  cells : List (String × BoardCell) := []
  /-- The choices. -/
  store : ChoiceStore := {}
  /-- The links in the order in which they were made. -/
  links : List Link := []
  /-- The loads under way, in the order in which they were started. -/
  loads : List Load := []
  /-- How many aborted loads have not been cleared away. -/
  abandoned : Nat := 0
deriving Repr, Inhabited

namespace Board

/-! ### Cells -/

/-- The cell with the given key, if it is still there. -/
def cell? (b : Board) (key : String) : Option Cell :=
  ((b.cells.lookup key).filter BoardCell.isAlive).map BoardCell.cell

/-- Whether the cell with the given key is still there. -/
def isAlive (b : Board) (key : String) : Bool := (b.cell? key).isSome

/-- The cells that are still there. -/
def alive (b : Board) : List (String × Cell) :=
  (b.cells.filter fun e => e.2.isAlive).map fun (k, x) => (k, x.cell)

/-- Adds a cell with a place for its choices. A second cell with one key is never
added. -/
def add (b : Board) (key : String) (c : Cell) (choices : List Choice) : Board :=
  if (b.cells.lookup key).isSome then b
  else { b with cells := b.cells ++ [(key, { cell := c })], store := b.store.seed key choices }

/-- Changes a cell that is still there. -/
def modifyCell (b : Board) (key : String) (f : BoardCell → BoardCell) : Board :=
  { b with cells := b.cells.map fun (k, x) => if k = key && x.isAlive then (k, f x) else (k, x) }

/-- Writes a value into a cell without further effect. -/
def publish (b : Board) (key : String) (v : Json) : Board :=
  b.modifyCell key fun x => { x with cell := x.cell.write v }

/-! ### Loads -/

/-- Whether a load is the one with the given key and token. -/
def isLoad (key : String) (token : Nat) (l : Load) : Bool := l.key = key && l.token = token

/-- The load with the given key and token, if it is under way. -/
def load? (b : Board) (key : String) (token : Nat) : Option Load :=
  b.loads.find? (isLoad key token)

/-- Takes a load off the board. -/
def removeLoad (b : Board) (key : String) (token : Nat) : Board :=
  { b with loads := b.loads.filter fun l => !isLoad key token l }

/-- Starts a load and gives its token. There is none for a key without a place for
choices. -/
def start (b : Board) (key : String) (binding : Binding) (dependency : Option Json) :
    Board × Option Nat :=
  match b.store.beginLoad key with
  | (_, none) => (b, none)
  | (store, some token) =>
    ({ b with store, loads := b.loads ++ [⟨key, token, binding, dependency⟩] }, some token)

/-- Aborts a load. A load that is not under way cannot be aborted. -/
def abort (b : Board) (key : String) (token : Nat) : Board :=
  if (b.load? key token).isSome then
    { b.removeLoad key token with abandoned := b.abandoned + 1 }
  else b

/-- Aborts a load that may be missing. -/
def abort? (b : Board) (key : String) (token : Option Nat) : Board :=
  match token with
  | some t => b.abort key t
  | none => b

/-- The choices that a load results in; nothing if it has failed. -/
def resultOf (binding : Binding) (records : Option (List Json)) : Option (List Choice) :=
  records.map binding.choices

/-- A load comes to its end, with records or without. -/
def finish (b : Board) (key : String) (token : Nat) (records : Option (List Json)) : Board :=
  match b.load? key token with
  | some l =>
    let b := b.removeLoad key token
    { b with store := (b.store.finishLoad key token (resultOf l.binding records)).1 }
  | none => b

/-! ### Links -/

/-- Adds a link behind those that are there. -/
def attach (b : Board) (parent child : String) (binding : Binding) : Board :=
  { b with links := b.links ++ [{ parent, child, binding }] }

/-- What the value of a parent means to a child: its own value is lost, and its
choices are emptied or loaded anew. Gives the token of the load that was started. -/
def applyParent (b : Board) (child : String) (binding : Binding) (v : Json) :
    Board × Option Nat :=
  let b := b.publish child .null
  if v.isEmpty then ({ b with store := b.store.clear child }, none)
  else b.start child binding (some v)

/-- The value of a parent goes along one of its links. -/
def follow (v : Json) (b : Board) (i : Nat) : Board :=
  match b.links[i]? with
  | none => b
  | some l =>
    if !b.isAlive l.child then b
    else
      let (b, token) := b.applyParent l.child l.binding v
      let b := b.abort? l.child l.inFlight
      { b with links := b.links.modify i fun l => { l with inFlight := token } }

/-- The places of the links of a parent. -/
def linksOf (b : Board) (parent : String) : List Nat :=
  (List.range b.links.length).filter fun i => (b.links[i]?.map Link.parent) = some parent

/-- Sets a cell: its children learn of the value, in the order of the links. -/
def set (b : Board) (key : String) (v : Json) : Board :=
  (b.linksOf key).foldl (follow v) (b.publish key v)

/-- Sets a cell to the value that it started with. -/
def reset (b : Board) (key : String) : Board :=
  match b.cell? key with
  | some c => b.set key c.initial
  | none => b

/-! ### Taking away -/

/-- Takes a cell away, with its links and the loads that they have started. -/
def drop (b : Board) (key : String) : Board :=
  let b := b.modifyCell key fun x => { x with isAlive := false }
  let b := (b.links.filter fun l => l.parent = key).foldl
    (fun b l => b.abort? l.child l.inFlight) b
  { b with links := b.links.filter fun l => l.parent ≠ key }

/-- Clears the aborted loads away. -/
def tidy (b : Board) : Board := { b with abandoned := 0 }

/-- Whether anything is left that may still write choices. -/
def isBusy (b : Board) : Bool := !b.links.isEmpty || !b.loads.isEmpty || b.abandoned != 0

end Board

end SmartForm
