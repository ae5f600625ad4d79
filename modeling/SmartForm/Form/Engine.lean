import SmartForm.Form.Basic
import SmartForm.Loading.Clock

/-!
# Form engines

A `SmartForm.FormEngine` has one form at a time and a clock. Another form takes the
place of the present one at any time (`SmartForm.FormEngine.build`). What is left of
a former form are the cells that somebody **holds**: they can still be set, and
what they start goes on in their own form, without any effect on the present one.
A cell may be held several times, and cells of several forms may be held under one
key; a cell of a former form is there until it is let go as often as it is held.

Loads take time, and time only moves when the engine waits, either for some
milliseconds (`SmartForm.FormEngine.sleep`) or until nothing is being loaded
(`SmartForm.FormEngine.settle`). All forms live on the same clock.
-/

namespace SmartForm

/-- A form on which loads take time. -/
structure TimedForm where
  /-- The form. -/
  form : Form := {}
  /-- The ends of loads that will come. -/
  ends : List LoadEnd := []
deriving Inhabited

namespace TimedForm

/-- The board with the ends that will come. -/
def timed (t : TimedForm) : TimedBoard := ⟨t.form.board, t.ends⟩

/-- Puts the board and the ends back. -/
def replace (t : TimedForm) (b : TimedBoard) : TimedForm :=
  ⟨{ t.form with board := b.board }, b.ends⟩

/-- Changes the form. Ends of loads that are no longer under way are forgotten. -/
def modify (t : TimedForm) (f : Form → Form) : TimedForm :=
  let form := f t.form
  { form, ends := t.ends.filter fun e => (form.board.load? e.key e.token).isSome }

end TimedForm

/-- A cell of a form: the number of the form and the key of the cell. -/
structure CellRef where
  /-- The number of the form. -/
  form : Nat
  /-- The key of the cell. -/
  key : String
deriving DecidableEq, Repr

/-- A form, those before it, and a clock. -/
structure FormEngine where
  /-- Loads the records, within a longest time. -/
  service : LoadService
  /-- The time. -/
  now : Nat := 0
  /-- The present form. -/
  current : TimedForm := {}
  /-- The former forms in the order of time. -/
  former : List TimedForm := []
  /-- The cells that somebody holds, each as often as it is held. -/
  held : List CellRef := []

namespace FormEngine

/-- The form that is being filled in. -/
def form (e : FormEngine) : Form := e.current.form

/-- The number of the present form: that of the forms before it. -/
def number (e : FormEngine) : Nat := e.former.length

/-- The form with the given number. -/
def form? (e : FormEngine) (n : Nat) : Option Form :=
  if n = e.number then some e.form else (e.former[n]?).map TimedForm.form

/-- Changes the form with the given number. -/
def modifyForm (e : FormEngine) (n : Nat) (f : Form → Form) : FormEngine :=
  if n = e.number then { e with current := e.current.modify f }
  else { e with former := e.former.modify n fun t => t.modify f }

/-- Changes the present form. -/
def modify (e : FormEngine) (f : Form → Form) : FormEngine :=
  { e with current := e.current.modify f }

/-! ### Forms -/

/-- The keys of the held cells of a form. -/
def heldOf (e : FormEngine) (n : Nat) : List String :=
  (e.held.filter fun r => r.form = n).map CellRef.key

/-- A new form takes the place of the present one. -/
def build (e : FormEngine) (fields : List FieldSpec) : FormEngine :=
  { e with
    current := { form := .build fields }
    former := e.former ++ [e.current.modify fun f => f.retire (e.heldOf e.number)] }

/-- The form of a schema takes the place of the present one. -/
def load (e : FormEngine) (s : Schema) : FormEngine := e.build s.fields

/-- Sets the value of a field. -/
def set (e : FormEngine) (key : String) (v : Json) : Except FormFlaw FormEngine :=
  (e.form.set key v).map fun f => e.modify fun _ => f

/-- Sets the values of several fields. -/
def patch (e : FormEngine) (values : List (String × Json)) : FormEngine :=
  e.modify fun f => f.patch values

/-- Sets all fields to what they started with. -/
def reset (e : FormEngine) : FormEngine := e.modify Form.reset

/-! ### Held cells -/

/-- Holds the cell of a field of the present form. -/
def hold (e : FormEngine) (key : String) : FormEngine :=
  { e with held := ⟨e.number, key⟩ :: e.held }

/-- Lets a held cell go once. If it is not held any more and its form is a former one,
the cell is taken away. -/
def release (e : FormEngine) (r : CellRef) : FormEngine :=
  let e := { e with held := e.held.erase r }
  if r.form = e.number ∨ r ∈ e.held then e
  else e.modifyForm r.form fun f => f.modify fun b => b.drop r.key

/-- The cell that has been held last under a key, of those that are held. -/
def held? (e : FormEngine) (key : String) : Option CellRef := e.held.find? fun r => r.key = key

/-- Sets a cell of the present form or of a former one. -/
def setCell (e : FormEngine) (r : CellRef) (v : Json) : FormEngine :=
  e.modifyForm r.form fun f => f.modify fun b => b.set r.key v

/-- A cell of the present form or of a former one, and whether it is still there. -/
def cell? (e : FormEngine) (r : CellRef) : Option (Watched Json × Bool) :=
  ((e.form? r.form).bind fun f => f.board.cells.lookup r.key).map fun x =>
    (x.cell.current, x.isAlive)

/-- The choices of a field of the present form or of a former one, and whether they
may still be written. -/
def choices? (e : FormEngine) (r : CellRef) : Option (Watched LoadState × Bool) :=
  (e.form? r.form).bind fun f => (f.board.store.slot? r.key).map fun x =>
    (x.current, r.form = e.number || f.board.isBusy)

/-! ### Time -/

/-- Changes all forms, collecting what the changes give. -/
def modifyAll (e : FormEngine) (f : TimedBoard → TimedBoard × List LoadCall) :
    FormEngine × List LoadCall :=
  let step (t : TimedForm) : TimedForm × List LoadCall :=
    let (b, calls) := f t.timed
    (t.replace b, calls)
  let former := e.former.map step
  let current := step e.current
  ({ e with current := current.1, former := former.map Prod.fst },
    former.flatMap Prod.snd ++ current.2)

/-- The clock moves by some milliseconds; gives the calls of the loader. -/
def sleep (e : FormEngine) (ms : Nat) : FormEngine × List LoadCall :=
  let (e', calls) := e.modifyAll fun t => t.sleep e.service e.now ms
  ({ e' with now := e.now + ms }, calls)

/-- The clock moves until nothing is being loaded in the present form; gives the
calls of the loader. If nothing is being loaded, nothing happens. -/
def settle (e : FormEngine) : FormEngine × List LoadCall :=
  if e.form.isLoading then
    let last := ((e.current.timed.wake e.service e.now).1).lastEnd e.now
    e.sleep (last - e.now)
  else (e, [])

end FormEngine

end SmartForm
