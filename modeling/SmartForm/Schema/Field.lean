import SmartForm.Json.Value

/-!
# Fields of a form

A `SmartForm.FieldSpec` describes one field: the kind of control, what it starts
with, the choices it offers or where they are loaded from, and the rules its value
has to keep. A field of the one container kind has no value: it holds rows of
further fields.

Keys are not required to be different. Where two fields have one key, the first
one counts.
-/

namespace SmartForm

/-! ### Kinds -/

/-- The kinds of control. -/
inductive FieldKind where
  | text
  | textarea
  | number
  | email
  | password
  | select
  | multiselect
  | radio
  | checkbox
  | toggle
  | date
  | datetime
  | time
  | slider
  | rating
  | color
  | file
  | richtext
  | signature
  | autocomplete
  | smartSearch
  | hidden
  | fieldset
deriving DecidableEq, Repr, Inhabited

namespace FieldKind

/-- The kinds with the words that documents use for them. -/
def words : List (String × FieldKind) :=
  [("text", .text), ("textarea", .textarea), ("number", .number), ("email", .email),
   ("password", .password), ("select", .select), ("multiselect", .multiselect),
   ("radio", .radio), ("checkbox", .checkbox), ("toggle", .toggle), ("date", .date),
   ("datetime", .datetime), ("time", .time), ("slider", .slider), ("rating", .rating),
   ("color", .color), ("file", .file), ("richtext", .richtext), ("signature", .signature),
   ("autocomplete", .autocomplete), ("smart_search", .smartSearch), ("hidden", .hidden),
   ("fieldset", .fieldset)]

/-- The word of a kind. -/
def word (k : FieldKind) : String :=
  match words.find? fun w => w.2 = k with
  | some w => w.1
  | none => ""

/-- Whether the kind holds further fields and no value. -/
def isContainer : FieldKind → Bool
  | fieldset => true
  | _ => false

/-- Whether the value of the kind is picked from choices. -/
def hasChoices : FieldKind → Bool
  | select => true
  | multiselect => true
  | radio => true
  | autocomplete => true
  | _ => false

end FieldKind

/-! ### Choices -/

/-- The value of a choice. -/
inductive ChoiceValue where
  /-- A truth value. -/
  | bool (b : Bool)
  /-- A number. -/
  | number (n : Number)
  /-- A text. -/
  | text (s : String)
deriving DecidableEq, Repr, Inhabited

namespace ChoiceValue

/-- The value of a choice made from any value; lists, objects and `null` make
none. -/
def ofJson? : Json → Option ChoiceValue
  | .bool b => some (.bool b)
  | .number n => some (.number n)
  | .string s => some (.text s)
  | _ => none

/-- The value of a choice as any value. -/
def toJson : ChoiceValue → Json
  | .bool b => .bool b
  | .number n => .number n
  | .text s => .string s

end ChoiceValue

/-- One choice that a control offers. -/
structure Choice where
  /-- What is shown. -/
  label : String
  /-- What is picked. -/
  value : ChoiceValue
  /-- The name of an icon. -/
  icon : Option String := none
  /-- The place of a picture. -/
  image : Option String := none
  /-- A longer text. -/
  description : Option String := none
deriving DecidableEq, Repr, Inhabited

/-! ### Bindings and rules -/

/-- Where the choices of a field are loaded from. -/
structure Binding where
  /-- The name of the records to load. -/
  endpoint : String
  /-- The member of a record that is shown. -/
  labelKey : String := "label"
  /-- The member of a record that is picked. -/
  valueKey : String := "value"
  /-- The key of the field whose value the records depend on. -/
  dependency : Option String := none
  /-- What every loaded record has to hold, sorted by name. -/
  params : List (String × Json) := []
deriving Repr, Inhabited

/-- The rules that the value of a field has to keep, as they are declared. -/
structure FieldRules where
  /-- Whether the field has to be filled in. -/
  required : Bool := false
  /-- The least length. -/
  minLength : Option Nat := none
  /-- The greatest length. -/
  maxLength : Option Nat := none
  /-- The lower bound: a number, a text that writes one, or a date. -/
  min : Option Json := none
  /-- The upper bound: a number, a text that writes one, or a date. -/
  max : Option Json := none
  /-- The pattern of the whole value. -/
  pattern : Option String := none
  /-- Whether the value has to be an email address. -/
  email : Bool := false
deriving Repr, Inhabited

/-! ### Fields -/

/-- A column of a row; it holds at most one field. -/
structure Column (φ : Type) where
  /-- How wide the column is, in a notation of its own. -/
  span : Option String := none
  /-- The field in the column. -/
  field : Option φ := none
deriving Repr, Inhabited

/-- Columns side by side. -/
structure Row (φ : Type) where
  /-- The columns from left to right. -/
  columns : List (Column φ) := []
deriving Repr, Inhabited

/-- The description of a field. -/
structure FieldSpec where
  /-- The name of the value. -/
  key : String
  /-- The kind of control. -/
  kind : FieldKind := .text
  /-- What is shown beside the control. -/
  label : String := ""
  /-- The value that the field starts with. -/
  initial : Json := .null
  /-- The choices that need not be loaded. -/
  choices : List Choice := []
  /-- Where further choices come from. -/
  binding : Option Binding := none
  /-- The rules of the value. -/
  rules : Option FieldRules := none
  /-- The rows of a container. -/
  rows : Option (List (Row FieldSpec)) := none
  /-- A text shown while the control is empty. -/
  placeholder : Option String := none
  /-- A text shown with the control. -/
  hint : Option String := none
  /-- Whether the control refuses input. -/
  disabled : Bool := false
deriving Repr, Inhabited

namespace FieldSpec

/-- The binding of a field whose choices wait for another field, with the key of
that field. -/
def dependentBinding? (f : FieldSpec) : Option (Binding × String) :=
  f.binding.bind fun b => b.dependency.map fun parent => (b, parent)

/-- The key of the field that the choices wait for. -/
def parent? (f : FieldSpec) : Option String := f.dependentBinding?.map Prod.snd

/-- The binding of a field whose choices are loaded at once. -/
def immediateBinding? (f : FieldSpec) : Option Binding :=
  f.binding.filter fun b => b.dependency.isNone

end FieldSpec

end SmartForm
