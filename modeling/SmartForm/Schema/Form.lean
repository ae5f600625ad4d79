import SmartForm.Schema.Field

/-!
# Form schemas

A `SmartForm.Schema` lays fields out in rows, either directly or under tabs. Its
layout says which of the two counts; the other half may hold anything and has no
effect. `SmartForm.Schema.fields` lists the fields that have a value, in reading
order: containers are replaced by what they hold, to any depth, and repeated keys
are kept.
-/

namespace SmartForm

/-- Which half of a schema counts. -/
inductive Layout where
  /-- The rows of the schema itself. -/
  | standard
  /-- The rows of its tabs. -/
  | tabs
deriving DecidableEq, Repr, Inhabited

/-- The layouts with the words that documents use for them. -/
def Layout.words : List (String × Layout) := [("standard", .standard), ("tabs", .tabs)]

/-- The word of a layout. -/
def Layout.word : Layout → String
  | .standard => "standard"
  | .tabs => "tabs"

/-- Rows under a label. -/
structure Tab where
  /-- What is shown on the tab. -/
  label : String
  /-- The rows from top to bottom. -/
  rows : List (Row FieldSpec) := []
deriving Repr, Inhabited

/-- The description of a form. -/
structure Schema where
  /-- The title of the form. -/
  title : String
  /-- A longer text. -/
  description : Option String := none
  /-- Which half counts. -/
  layout : Layout := .standard
  /-- The rows of the standard layout. -/
  rows : List (Row FieldSpec) := []
  /-- The tabs of the other one. -/
  tabs : List Tab := []
deriving Repr, Inhabited

/-! ### Fields in reading order -/

mutual

/-- The field itself, or what it holds if it is a container. -/
def FieldSpec.leaves : FieldSpec → List FieldSpec
  | ⟨key, kind, label, initial, choices, binding, rules, rows, placeholder, hint, disabled⟩ =>
    if kind.isContainer then leavesOfRows? rows
    else
      [⟨key, kind, label, initial, choices, binding, rules, rows, placeholder, hint, disabled⟩]

/-- The fields in rows that may be missing. -/
def leavesOfRows? : Option (List (Row FieldSpec)) → List FieldSpec
  | none => []
  | some rows => leavesOfRows rows

/-- The fields in rows. -/
def leavesOfRows : List (Row FieldSpec) → List FieldSpec
  | [] => []
  | ⟨columns⟩ :: rows => leavesOfColumns columns ++ leavesOfRows rows

/-- The fields in columns. -/
def leavesOfColumns : List (Column FieldSpec) → List FieldSpec
  | [] => []
  | ⟨_, none⟩ :: columns => leavesOfColumns columns
  | ⟨_, some field⟩ :: columns => field.leaves ++ leavesOfColumns columns

end

namespace Schema

/-- The rows that count. -/
def activeRows (s : Schema) : List (Row FieldSpec) :=
  match s.layout with
  | .standard => s.rows
  | .tabs => s.tabs.flatMap Tab.rows

/-- The fields that have a value, in reading order. -/
def fields (s : Schema) : List FieldSpec := leavesOfRows s.activeRows

end Schema

end SmartForm
