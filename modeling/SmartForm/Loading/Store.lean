import SmartForm.Cells.Watched
import SmartForm.Schema.Records

/-!
# Loaded choices

A `SmartForm.ChoiceStore` keeps the choices of fields while they are loaded anew
and again. Each key has a **slot** with a phase and a generation. Beginning a load
and clearing the slot both start a new generation; the generation of a load is its
**token**, and the result of a load is taken only while its token is the
generation of the slot. So of several loads for one key only the latest counts.

Operations on one key do not touch the slots of others.
-/

namespace SmartForm

/-- How far the loading of choices has come. -/
inductive LoadPhase where
  /-- Nothing has been loaded. -/
  | idle
  /-- A load is under way. -/
  | loading
  /-- The choices are loaded. -/
  | loaded
  /-- The load has failed. -/
  | failed
deriving DecidableEq, Repr, Inhabited

/-- The word of a phase. -/
def LoadPhase.word : LoadPhase → String
  | idle => "idle"
  | loading => "loading"
  | loaded => "loaded"
  | failed => "failed"

/-- The choices of a field and how they came about. -/
structure LoadState where
  /-- Whether a load is under way. -/
  isLoading : Bool := false
  /-- The choices that can be picked now. -/
  choices : List Choice := []
  /-- How far the loading has come. -/
  phase : LoadPhase := .idle
deriving DecidableEq, Repr, Inhabited

namespace LoadState

/-- The state with choices that need not be loaded. -/
def ofChoices (choices : List Choice) : LoadState := { choices }

/-- The state while a load is under way. -/
def underWay : LoadState := ⟨true, [], .loading⟩

/-- The state after a load; it has failed if there is no result. -/
def ofResult : Option (List Choice) → LoadState
  | some choices => ⟨false, choices, .loaded⟩
  | none => ⟨false, [], .failed⟩

/-- The state as a value. -/
def toJson (s : LoadState) : Json :=
  .object
    [("loading", .bool s.isLoading), ("options", Choice.listJson s.choices),
     ("phase", .string s.phase.word)]

end LoadState

/-- The place of one key. -/
structure ChoiceSlot where
  /-- The state. -/
  current : Watched LoadState
  /-- The generation: how many loads were begun and how often the slot was cleared. A
  counter of sixty-four bits keeps it as long as that is less than `2 ^ 64` times. -/
  generation : Nat := 0
deriving Repr, Inhabited

/-- Slots by key. -/
structure ChoiceStore where
  /-- The slots in the order in which they were made. -/
  slots : List (String × ChoiceSlot) := []
deriving Repr, Inhabited

namespace ChoiceStore

/-! ### Looking -/

/-- The slot of a key. -/
def slot? (s : ChoiceStore) (key : String) : Option ChoiceSlot := s.slots.lookup key

/-- Whether a key has a slot. -/
def contains (s : ChoiceStore) (key : String) : Bool := (s.slot? key).isSome

/-- How many keys have a slot. -/
def size (s : ChoiceStore) : Nat := s.slots.length

/-- The state of a key. -/
def get? (s : ChoiceStore) (key : String) : Option LoadState :=
  (s.slot? key).map fun x => x.current.value

/-- The states of all keys. -/
def states (s : ChoiceStore) : List (String × LoadState) :=
  s.slots.map fun (k, x) => (k, x.current.value)

/-- Whether a load is under way for any key. -/
def anyLoading (s : ChoiceStore) : Bool := s.states.any fun x => x.2.isLoading

/-! ### Writing -/

/-- Changes the slot of a key. -/
def modify (s : ChoiceStore) (key : String) (f : ChoiceSlot → ChoiceSlot) : ChoiceStore :=
  ⟨s.slots.map fun (k, x) => if k = key then (k, f x) else (k, x)⟩

/-- Makes a slot for a key that has none. A second slot is never made. -/
def seed (s : ChoiceStore) (key : String) (choices : List Choice) : ChoiceStore :=
  if s.contains key then s
  else ⟨s.slots ++ [(key, { current := ⟨.ofChoices choices, 0⟩ })]⟩

/-- Begins a load and gives its token; there is none for a key without a slot. -/
def beginLoad (s : ChoiceStore) (key : String) : ChoiceStore × Option Nat :=
  match s.slot? key with
  | none => (s, none)
  | some x =>
    (s.modify key fun x => ⟨x.current.write .underWay, x.generation + 1⟩, some (x.generation + 1))

/-- Takes the result of a load, unless the load does not count any more; tells
whether it was taken. -/
def finishLoad (s : ChoiceStore) (key : String) (token : Nat) (result : Option (List Choice)) :
    ChoiceStore × Bool :=
  match s.slot? key with
  | none => (s, false)
  | some x =>
    if x.generation = token then
      (s.modify key fun x => { x with current := x.current.write (.ofResult result) }, true)
    else (s, false)

/-- Empties the slot of a key; a load under way does not count any more. -/
def clear (s : ChoiceStore) (key : String) : ChoiceStore :=
  s.modify key fun x => ⟨x.current.write {}, x.generation + 1⟩

end ChoiceStore

end SmartForm
