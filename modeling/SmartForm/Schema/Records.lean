import SmartForm.Decoding.Record
import SmartForm.Json.Printer
import SmartForm.Json.Reader
import SmartForm.Schema.Form

/-!
# Form schemas in documents

How the parts of a schema stand in documents, one `SmartForm.Record` for each
structure. Members without a value are left out when a schema is written; members
with a default are always written.

Fields hold rows and rows hold fields, so the record of a field takes the reader
of its rows from the outside. Each level of fields opens several lists and
objects, so a reader that may open `n` of them never meets more than `n` levels.
-/

namespace SmartForm

/-- An optional text as an optional member. -/
def optionalText (s : Option String) : Option Json := s.map .string

/-- An optional natural number as an optional member. -/
def optionalNat (n : Option Nat) : Option Json := n.map Json.nat

/-! ### Choices -/

namespace ChoiceValue

/-- Reads the value of a choice. -/
def reader : Reader ChoiceValue := fun dialect budget d =>
  match Reader.json dialect budget d with
  | .error flaw => .error flaw
  | .ok v =>
    match ofJson? v with
    | some c => .ok c
    | none => .error (.noVariant "OptionValue")

end ChoiceValue

/-- Choices in documents. -/
def Choice.record : Record Choice where
  name := "FormOption"
  blank := ⟨"", .text "", none, none, none⟩
  fields :=
    [.need "label" Reader.string (fun v c => { c with label := v }) fun c => .string c.label,
     .need "value" ChoiceValue.reader (fun v c => { c with value := v })
       fun c => c.value.toJson,
     .skip "icon" (Reader.option Reader.string) (fun v c => { c with icon := v })
       fun c => optionalText c.icon,
     .skip "image" (Reader.option Reader.string) (fun v c => { c with image := v })
       fun c => optionalText c.image,
     .skip "description" (Reader.option Reader.string) (fun v c => { c with description := v })
       fun c => optionalText c.description]

/-- A choice as a value. -/
def Choice.toJson (c : Choice) : Json := Choice.record.write c

/-- Some choices as a value. -/
def Choice.listJson (cs : List Choice) : Json := .array (cs.map Choice.toJson)

/-! ### Bindings and rules -/

/-- Bindings in documents. -/
def Binding.record : Record Binding where
  name := "ApiBinding"
  blank := { endpoint := "" }
  fields :=
    [.need "endpoint" Reader.string (fun v b => { b with endpoint := v })
       fun b => .string b.endpoint,
     .give "labelKey" Reader.string (fun v b => { b with labelKey := v })
       fun b => .string b.labelKey,
     .give "valueKey" Reader.string (fun v b => { b with valueKey := v })
       fun b => .string b.valueKey,
     .skip "dependency" (Reader.option Reader.string) (fun v b => { b with dependency := v })
       fun b => optionalText b.dependency,
     .skip "params" Reader.freeObject (fun v b => { b with params := v })
       fun b => if b.params.isEmpty then none else some (.object b.params)]

/-- A binding as a value. -/
def Binding.toJson (b : Binding) : Json := Binding.record.write b

/-- Rules in documents. -/
def FieldRules.record : Record FieldRules where
  name := "ValidationRule"
  blank := {}
  fields :=
    [.give "required" Reader.bool (fun v r => { r with required := v })
       fun r => .bool r.required,
     .skip "minLength" (Reader.option (Reader.word "usize"))
       (fun v r => { r with minLength := v }) fun r => optionalNat r.minLength,
     .skip "maxLength" (Reader.option (Reader.word "usize"))
       (fun v r => { r with maxLength := v }) fun r => optionalNat r.maxLength,
     .skip "min" (Reader.option Reader.json) (fun v r => { r with min := v }) fun r => r.min,
     .skip "max" (Reader.option Reader.json) (fun v r => { r with max := v }) fun r => r.max,
     .skip "pattern" (Reader.option Reader.string) (fun v r => { r with pattern := v })
       fun r => optionalText r.pattern,
     .give "email" Reader.bool (fun v r => { r with email := v }) fun r => .bool r.email]

/-- Rules as a value. -/
def FieldRules.toJson (r : FieldRules) : Json := FieldRules.record.write r

/-! ### Rows and fields -/

/-- Columns in documents. -/
def Column.record {φ : Type} (reader : Reader φ) (write : φ → Json) : Record (Column φ) where
  name := "ColumnConfig"
  blank := {}
  fields :=
    [.skip "span" (Reader.option Reader.string) (fun v c => { c with span := v })
       fun c => optionalText c.span,
     .skip "field" (Reader.option reader) (fun v c => { c with field := v })
       fun c => c.field.map write]

/-- Rows in documents, with the record of their columns. -/
def Row.record {φ : Type} (column : Record (Column φ)) : Record (Row φ) where
  name := "RowConfig"
  blank := {}
  fields :=
    [.give "columns" (Reader.list column.read) (fun v r => { r with columns := v })
       fun r => .array (r.columns.map column.write)]

/-- Fields in documents, with the reader of their rows and the way in which the
rows are written. -/
def FieldSpec.recordWith (readRows : Reader (List (Row FieldSpec)))
    (writeRows : FieldSpec → Option Json) : Record FieldSpec where
  name := "FieldDefinition"
  blank := { key := "" }
  fields :=
    [.need "key" Reader.string (fun v f => { f with key := v }) fun f => .string f.key,
     .give "type" (Reader.oneOf FieldKind.words) (fun v f => { f with kind := v })
       fun f => .string f.kind.word,
     .give "label" Reader.string (fun v f => { f with label := v }) fun f => .string f.label,
     .give "defaultValue" Reader.json (fun v f => { f with initial := v }) fun f => f.initial,
     .give "options" (Reader.list Choice.record.read) (fun v f => { f with choices := v })
       fun f => Choice.listJson f.choices,
     .skip "api" (Reader.option Binding.record.read) (fun v f => { f with binding := v })
       fun f => f.binding.map Binding.toJson,
     .skip "validation" (Reader.option FieldRules.record.read)
       (fun v f => { f with rules := v }) fun f => f.rules.map FieldRules.toJson,
     .skip "rows" (Reader.option readRows) (fun v f => { f with rows := v }) writeRows,
     .skip "placeholder" (Reader.option Reader.string)
       (fun v f => { f with placeholder := v }) fun f => optionalText f.placeholder,
     .skip "hint" (Reader.option Reader.string) (fun v f => { f with hint := v })
       fun f => optionalText f.hint,
     .give "disabled" Reader.bool (fun v f => { f with disabled := v })
       fun f => .bool f.disabled]

/-- Reads nothing. -/
def Reader.refuse {α : Type} : Reader α := fun _ _ _ => .error .malformed

/-- Reads rows with a reader for their fields. -/
def Row.listReader (field : Reader FieldSpec) : Reader (List (Row FieldSpec)) :=
  Reader.list (Row.record (Column.record field fun _ => .null)).read

/-- Reads a field that holds at most `levels` levels of further fields. -/
def FieldSpec.readerTo : Nat → Reader FieldSpec
  | 0 => Reader.refuse
  | levels + 1 =>
    (FieldSpec.recordWith (Row.listReader (FieldSpec.readerTo levels)) fun _ => none).read

/-- Reads a field. -/
def FieldSpec.reader : Reader FieldSpec := fun dialect budget d =>
  FieldSpec.readerTo (budget + 1) dialect budget d

mutual

/-- A field as a value. -/
def FieldSpec.toJson : FieldSpec → Json
  | ⟨key, kind, label, initial, choices, binding, rules, rows, placeholder, hint, disabled⟩ =>
    let inner := rowsJson? rows
    (FieldSpec.recordWith Reader.refuse fun _ => inner).write
      ⟨key, kind, label, initial, choices, binding, rules, rows, placeholder, hint, disabled⟩

/-- Rows that may be missing as an optional member. -/
def rowsJson? : Option (List (Row FieldSpec)) → Option Json
  | none => none
  | some rows => some (.array (rowsJson rows))

/-- Rows as values. -/
def rowsJson : List (Row FieldSpec) → List Json
  | [] => []
  | ⟨columns⟩ :: rows => .object [("columns", .array (columnsJson columns))] :: rowsJson rows

/-- Columns as values. -/
def columnsJson : List (Column FieldSpec) → List Json
  | [] => []
  | ⟨span, none⟩ :: columns =>
    (Column.record (φ := FieldSpec) Reader.refuse fun _ => .null).write ⟨span, none⟩
      :: columnsJson columns
  | ⟨span, some field⟩ :: columns =>
    let inner := field.toJson
    (Column.record Reader.refuse fun _ => inner).write ⟨span, some field⟩
      :: columnsJson columns

end

/-! ### Whole schemas -/

/-- Reads rows. -/
def Row.reader : Reader (List (Row FieldSpec)) := Row.listReader FieldSpec.reader

/-- Tabs in documents. -/
def Tab.record : Record Tab where
  name := "TabConfig"
  blank := { label := "" }
  fields :=
    [.need "label" Reader.string (fun v t => { t with label := v }) fun t => .string t.label,
     .give "rows" Row.reader (fun v t => { t with rows := v })
       fun t => .array (rowsJson t.rows)]

/-- Schemas in documents. -/
def Schema.record : Record Schema where
  name := "FormSchema"
  blank := { title := "" }
  fields :=
    [.need "title" Reader.string (fun v s => { s with title := v }) fun s => .string s.title,
     .skip "description" (Reader.option Reader.string) (fun v s => { s with description := v })
       fun s => optionalText s.description,
     .give "layout" (Reader.oneOf Layout.words) (fun v s => { s with layout := v })
       fun s => .string s.layout.word,
     .give "rows" Row.reader (fun v s => { s with rows := v })
       fun s => .array (rowsJson s.rows),
     .give "tabs" (Reader.list Tab.record.read) (fun v s => { s with tabs := v })
       fun s => .array (s.tabs.map Tab.record.write)]

namespace Schema

/-- A schema as a value. -/
def toJson (s : Schema) : Json := Schema.record.write s

/-- Reads a schema from a JSON text. -/
def ofText (text : String) : Except Flaw Schema :=
  let (d, atEnd) := Json.readDocument text
  Schema.record.read.text d atEnd

/-- A schema as a JSON text, with a line for every item and member. -/
def toText (s : Schema) : String := s.toJson.pretty

end Schema

end SmartForm
