import SmartForm.Form.Definitions
import SmartForm.Loading.Board
import SmartForm.Schema.Records

/-!
# Forms

A `SmartForm.Form` is made of field descriptions (`SmartForm.Form.build`): a board
with one cell for each key, loads for the choices that wait for no other field, and
links for those that wait for another field of the form. A field that waits for
itself, or for a field that is not there, is not linked.

Several values can be written together (`SmartForm.Form.patch`): parents come
before their children, so a child keeps its value although its parent is set.
-/

namespace SmartForm

/-- What can go wrong with a form. -/
inductive FormFlaw where
  /-- There is no field with the given key. -/
  | unknownControl (key : String)
deriving DecidableEq, Repr

/-- The wording of a flaw. -/
def FormFlaw.message : FormFlaw → String
  | unknownControl key => "Unknown control: " ++ key

/-- A form that is being filled in. -/
structure Form where
  /-- The descriptions of the fields, one for each key. -/
  fields : List FieldSpec := []
  /-- The keys in the order in which values are written together. -/
  applyOrder : List String := []
  /-- The cells, their choices and the links. -/
  board : Board := {}
  /-- The loads that were started when the form was made. -/
  opening : List (String × Nat) := []
deriving Repr, Inhabited

namespace Form

/-! ### Making a form -/

/-- Adds the cell of a field. -/
def addCell (b : Board) (f : FieldSpec) : Board :=
  b.add f.key (.start f.initial (Validator.ofField f)) f.choices

/-- Starts the load of a field whose choices wait for nothing. -/
def openField (x : Board × List (String × Nat)) (f : FieldSpec) : Board × List (String × Nat) :=
  match f.immediateBinding? with
  | none => x
  | some binding =>
    let (b, token) := x.1.start f.key binding none
    (b, x.2 ++ (token.map fun t => (f.key, t)).toList)

/-- Links a field to the field that its choices wait for. -/
def link (fields : List FieldSpec) (b : Board) (f : FieldSpec) : Board :=
  match f.dependentBinding? with
  | none => b
  | some (binding, parent) =>
    if parent ≠ f.key && (FieldSpec.withKey? fields parent).isSome then
      b.attach parent f.key binding
    else b

/-- The form of some fields. Of several with one key the first one counts. -/
def build (fields : List FieldSpec) : Form :=
  let fields := FieldSpec.firsts fields
  let (board, opening) := fields.foldl openField (fields.foldl addCell {}, [])
  { fields
    applyOrder := FieldSpec.applyOrder fields
    board := fields.foldl (link fields) board
    opening }

/-! ### Looking -/

/-- The keys in the order of the form. -/
def keys (f : Form) : List String := f.fields.map FieldSpec.key

/-- The description of the field with the given key. -/
def definition? (f : Form) (key : String) : Option FieldSpec := FieldSpec.withKey? f.fields key

/-- The cell of the field with the given key. -/
def control? (f : Form) (key : String) : Option Cell := f.board.cell? key

/-- The present values by key. -/
def value (f : Form) : List (String × Json) :=
  f.board.alive.map fun (k, c) => (k, c.value)

/-- What the present values do wrong; fields with nothing wrong are left out. -/
def errors (f : Form) : List (String × List Violation) :=
  (f.board.alive.map fun (k, c) => (k, c.violations)).filter fun e => !e.2.isEmpty

/-- Whether the present values do nothing wrong. -/
def isValid (f : Form) : Bool := f.board.alive.all fun e => e.2.isValid

/-- The choices of a field and how they came about. -/
def state? (f : Form) (key : String) : Option LoadState := f.board.store.get? key

/-- The choices of all fields. -/
def states (f : Form) : List (String × LoadState) := f.board.store.states

/-- Whether choices are being loaded. -/
def isLoading (f : Form) : Bool := f.board.store.anyLoading

/-! ### Writing -/

/-- Changes the board. -/
def modify (f : Form) (g : Board → Board) : Form := { f with board := g f.board }

/-- Sets the value of a field. -/
def set (f : Form) (key : String) (v : Json) : Except FormFlaw Form :=
  if f.board.isAlive key then .ok (f.modify fun b => b.set key v)
  else .error (.unknownControl key)

/-- Sets the values of all fields that are named. Names of no field have no effect. -/
def patch (f : Form) (values : List (String × Json)) : Form :=
  f.modify fun b => f.applyOrder.foldl (fun b key =>
    match values.lookup key with
    | some v => b.set key v
    | none => b) b

/-- Sets all fields to what they started with. -/
def reset (f : Form) : Form := f.modify fun b => f.applyOrder.foldl Board.reset b

/-- Puts a form away of which only the cells with the given keys are kept: the
loads it was made with are aborted and all other cells are taken away. -/
def retire (f : Form) (kept : List String) : Form :=
  f.modify fun b =>
    let b := f.opening.foldl (fun b (key, token) => b.abort key token) b
    (b.alive.map Prod.fst).foldl (fun b key => if kept.contains key then b else b.drop key) b

end Form

end SmartForm
