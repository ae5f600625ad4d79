import SmartForm.Proofs.Decoding.Parts
import SmartForm.Proofs.Schema.Numbers

/-!
# Schemas are read as they are written

A schema that was read from a text is written as a text that gives the same schema
(`SmartForm.Schema.ofText_toText`), whatever the first text looked like: structures may stand
in it as lists, members may be missing, unknown or `null`, and the half of the schema that
does not count may be filled in. Only the numbers in the schema have to be integers of
sixty-four bits.

Two things have to be arranged.

* **Every structure keeps what it reads.** That is said once for all records
  (`SmartForm.Record.IsMadeOf.keeps`), so for each of them only its parts are listed here.
* **There is room for the defaults.** A list that is missing in the first text is written
  as an empty one, which opens one list more. Fields stand in columns, columns in rows, and
  rows in fields, so from a field to the next one there are five lists and objects to be
  opened. The limit is such that at no field and at no row just one of them is left
  (`SmartForm.FieldSpec.keeps_readerTo`).
-/

namespace SmartForm

/-! ### Parts that hold texts -/

namespace Part

variable {α : Type} {blank : α} {budget : Nat} {name : String}

theorem lawful_text {required : Bool} {get : α → String} {set : String → α → α}
    (hset : ∀ x a, get (set x a) = x) :
    (always name required Reader.string get set .string).Lawful blank budget :=
  lawful_always (Reader.keeps_string budget) rfl hset

theorem lawful_optionalText {get : α → Option String} {set : Option String → α → α}
    (hblank : get blank = none) (hset : ∀ x a, get (set x a) = x) :
    (optional name Reader.string get set .string).Lawful blank budget :=
  lawful_optional (Reader.keeps_string budget) (fun _ _ _ _ _ => Json.noConfusion) hblank hset

theorem lawful_bool {required : Bool} {get : α → Bool} {set : Bool → α → α}
    (hset : ∀ x a, get (set x a) = x) :
    (always name required Reader.bool get set .bool).Lawful blank budget :=
  lawful_always (Reader.keeps_bool budget) rfl hset

/-- Any value may be an optional part, since nothing is not one of them. -/
theorem lawful_optionalJson {get : α → Option Json} {set : Option Json → α → α}
    (hblank : get blank = none) (hset : ∀ x a, get (set x a) = x) :
    (optional name Reader.json get set id).Lawful blank budget :=
  lawful_optional (Reader.keeps_json budget)
    (fun _ _ hd hnull h => Reader.freeValue_ne_null hd hnull h) hblank hset

theorem lawful_optionalWord {wanted : String} {get : α → Option Nat} {set : Option Nat → α → α}
    (hblank : get blank = none) (hset : ∀ x a, get (set x a) = x) :
    (optional name (Reader.word wanted) get set Json.nat).Lawful blank budget :=
  lawful_optional (Reader.keeps_word wanted budget) (fun _ _ _ _ _ => Json.noConfusion) hblank hset

end Part

/-! ### Choices -/

theorem ChoiceValue.toJson_of_ofJson? {v : Json} {c : ChoiceValue}
    (h : ChoiceValue.ofJson? v = some c) : v = c.toJson := by
  cases v with
  | bool b => cases h; rfl
  | number n => cases h; rfl
  | string s => cases h; rfl
  | _ => cases h

theorem ChoiceValue.ofJson?_toJson (c : ChoiceValue) : ChoiceValue.ofJson? c.toJson = some c := by
  cases c <;> rfl

theorem ChoiceValue.keeps_reader (budget : Nat) :
    ChoiceValue.reader.Keeps ChoiceValue.toJson budget := by
  intro d c hd h
  rw [ChoiceValue.reader] at h
  split at h
  · cases h
  · next v hv =>
    split at h
    · next c' hc =>
      cases h
      have hread := Reader.freeValue_ofJson hd hv
      rw [toJson_of_ofJson? hc] at hread
      have hjson : Reader.json .json budget (.ofJson c.toJson) = .ok c.toJson := hread
      simp only [ChoiceValue.reader, hjson, ofJson?_toJson]
    · cases h

/-- The parts of a choice. -/
def Choice.parts : List (Part Choice) :=
  [.always "label" true Reader.string Choice.label (fun v c => { c with label := v }) .string,
   .always "value" true ChoiceValue.reader Choice.value (fun v c => { c with value := v })
     ChoiceValue.toJson,
   .optional "icon" Reader.string Choice.icon (fun v c => { c with icon := v }) .string,
   .optional "image" Reader.string Choice.image (fun v c => { c with image := v }) .string,
   .optional "description" Reader.string Choice.description
     (fun v c => { c with description := v }) .string]

theorem Choice.isMadeOf (budget : Nat) : Choice.record.IsMadeOf Choice.parts budget where
  reading := rfl
  names := by decide
  lawful := by
    simp only [Choice.parts, List.forall_mem_cons]
    exact ⟨Part.lawful_text fun _ _ => rfl,
      Part.lawful_always (ChoiceValue.keeps_reader budget) rfl fun _ _ => rfl,
      Part.lawful_optionalText rfl fun _ _ => rfl, Part.lawful_optionalText rfl fun _ _ => rfl,
      Part.lawful_optionalText rfl fun _ _ => rfl, fun _ h => absurd h List.not_mem_nil⟩
  apart := by simp [Choice.parts, Part.always, Part.optional]
  ext := by
    rintro ⟨label, value, icon, image, description⟩ ⟨label', value', icon', image', description'⟩ h
    simpa [Choice.parts, Part.always, Part.optional] using h

theorem Choice.keeps (budget : Nat) : Choice.record.read.Keeps Choice.toJson budget :=
  (Choice.isMadeOf (budget - 1)).keeps

/-! ### Bindings -/

/-- The parts of a binding. -/
def Binding.parts : List (Part Binding) :=
  [.always "endpoint" true Reader.string Binding.endpoint (fun v b => { b with endpoint := v })
     .string,
   .always "labelKey" false Reader.string Binding.labelKey (fun v b => { b with labelKey := v })
     .string,
   .always "valueKey" false Reader.string Binding.valueKey (fun v b => { b with valueKey := v })
     .string,
   .optional "dependency" Reader.string Binding.dependency
     (fun v b => { b with dependency := v }) .string,
   { name := "params"
     required := false
     kind := List (String × Json)
     reader := Reader.freeObject
     get := Binding.params
     set := fun v b => { b with params := v }
     write := fun v => if v.isEmpty then none else some (.object v) }]

theorem Binding.isMadeOf (budget : Nat) : Binding.record.IsMadeOf Binding.parts budget where
  reading := rfl
  names := by decide
  lawful := by
    simp only [Binding.parts, List.forall_mem_cons]
    refine ⟨Part.lawful_text fun _ _ => rfl, Part.lawful_text fun _ _ => rfl,
      Part.lawful_text fun _ _ => rfl, Part.lawful_optionalText rfl fun _ _ => rfl, ?_,
      fun _ h => absurd h List.not_mem_nil⟩
    refine ⟨fun _ _ => rfl, fun ms h => ⟨rfl, ?_⟩, fun v h => ?_, fun d ms hd hms v h => ?_⟩
    · cases ms with
      | nil => rfl
      | cons m ms => cases h
    · cases h
    · cases ms with
      | nil => cases h
      | cons m ms =>
        cases h
        exact Reader.keeps_freeObject budget d _ hd hms
  apart := by simp [Binding.parts, Part.always, Part.optional]
  ext := by
    rintro ⟨endpoint, labelKey, valueKey, dependency, params⟩
      ⟨endpoint', labelKey', valueKey', dependency', params'⟩ h
    simpa [Binding.parts, Part.always, Part.optional] using h

theorem Binding.keeps (budget : Nat) : Binding.record.read.Keeps Binding.toJson budget :=
  (Binding.isMadeOf (budget - 1)).keeps

/-! ### Rules -/

/-- The parts of the rules of a field. -/
def FieldRules.parts : List (Part FieldRules) :=
  [.always "required" false Reader.bool FieldRules.required
     (fun v r => { r with required := v }) .bool,
   .optional "minLength" (Reader.word "usize") FieldRules.minLength
     (fun v r => { r with minLength := v }) Json.nat,
   .optional "maxLength" (Reader.word "usize") FieldRules.maxLength
     (fun v r => { r with maxLength := v }) Json.nat,
   .optional "min" Reader.json FieldRules.min (fun v r => { r with min := v }) id,
   .optional "max" Reader.json FieldRules.max (fun v r => { r with max := v }) id,
   .optional "pattern" Reader.string FieldRules.pattern (fun v r => { r with pattern := v })
     .string,
   .always "email" false Reader.bool FieldRules.email (fun v r => { r with email := v }) .bool]

theorem FieldRules.isMadeOf (budget : Nat) :
    FieldRules.record.IsMadeOf FieldRules.parts budget where
  reading := rfl
  names := by decide
  lawful := by
    simp only [FieldRules.parts, List.forall_mem_cons]
    exact ⟨Part.lawful_bool fun _ _ => rfl, Part.lawful_optionalWord rfl fun _ _ => rfl,
      Part.lawful_optionalWord rfl fun _ _ => rfl, Part.lawful_optionalJson rfl fun _ _ => rfl,
      Part.lawful_optionalJson rfl fun _ _ => rfl, Part.lawful_optionalText rfl fun _ _ => rfl,
      Part.lawful_bool fun _ _ => rfl, fun _ h => absurd h List.not_mem_nil⟩
  apart := by simp [FieldRules.parts, Part.always, Part.optional]
  ext := by
    rintro ⟨required, minLength, maxLength, min, max, pattern, email⟩
      ⟨required', minLength', maxLength', min', max', pattern', email'⟩ h
    simpa [FieldRules.parts, Part.always, Part.optional] using h

theorem FieldRules.keeps (budget : Nat) :
    FieldRules.record.read.Keeps FieldRules.toJson budget := by
  have hwrite : FieldRules.toJson = Part.object FieldRules.parts := by
    funext r
    obtain ⟨required, minLength, maxLength, min, max, pattern, email⟩ := r
    cases min <;> cases max <;> rfl
  exact hwrite ▸ (FieldRules.isMadeOf (budget - 1)).keeps

/-! ### Rows and columns -/

section Rows

variable {φ : Type}

/-- The parts of a column. -/
def Column.parts (reader : Reader φ) (write : φ → Json) : List (Part (Column φ)) :=
  [.optional "span" Reader.string Column.span (fun v c => { c with span := v }) .string,
   .optional "field" reader Column.field (fun v c => { c with field := v }) write]

/-- A column as a value. -/
def Column.toJson (write : φ → Json) (c : Column φ) : Json :=
  (Column.record Reader.refuse write).write c

/-- A row as a value. -/
def Row.toJson (write : φ → Json) (r : Row φ) : Json :=
  .object [("columns", .array (r.columns.map (Column.toJson write)))]

/-- The parts of a row. -/
def Row.parts (column : Record (Column φ)) (write : φ → Json) : List (Part (Row φ)) :=
  [.always "columns" false (Reader.list column.read) Row.columns
     (fun v r => { r with columns := v }) fun cs => .array (cs.map (Column.toJson write))]

variable {reader : Reader φ} {write : φ → Json} {budget : Nat}

theorem Column.isMadeOf (other : φ → Json) (hfield : reader.Keeps write budget)
    (hwrite : ∀ x, write x ≠ .null) :
    (Column.record reader other).IsMadeOf (Column.parts reader write) budget where
  reading := rfl
  names := by simp [Column.parts, Part.optional]
  lawful := by
    simp only [Column.parts, List.forall_mem_cons]
    exact ⟨Part.lawful_optionalText rfl fun _ _ => rfl,
      Part.lawful_optional hfield (fun _ x _ _ _ => hwrite x) rfl fun _ _ => rfl,
      fun _ h => absurd h List.not_mem_nil⟩
  apart := by simp [Column.parts, Part.optional]
  ext := by
    rintro ⟨span, field⟩ ⟨span', field'⟩ h
    simpa [Column.parts, Part.optional] using h

theorem Column.toJson_eq (write : φ → Json) (c : Column φ) :
    c.toJson write = Part.object (Column.parts reader write) c := by
  obtain ⟨span, field⟩ := c
  cases span <;> cases field <;> rfl

theorem Column.keeps (other : φ → Json) (hfield : reader.Keeps write budget)
    (hwrite : ∀ x, write x ≠ .null) :
    (Column.record reader other).read.Keeps (Column.toJson write) (budget + 1) := by
  have hmade : (Column.record reader other).IsMadeOf (Column.parts reader write) (budget + 1 - 1) :=
    Column.isMadeOf other hfield hwrite
  have hsame : Column.toJson write = Part.object (Column.parts reader write) :=
    funext (Column.toJson_eq write)
  exact hsame ▸ hmade.keeps

/-- A row is read where its columns can be, be there none of them. -/
theorem Row.isMadeOf {column : Record (Column φ)}
    (hcolumn : column.read.Keeps (Column.toJson write) budget) :
    (Row.record column).IsMadeOf (Row.parts column write) (budget + 1) where
  reading := rfl
  names := by simp [Row.parts, Part.always]
  lawful := by
    simp only [Row.parts, List.forall_mem_cons]
    exact ⟨Part.lawful_always (Reader.keeps_list hcolumn) rfl fun _ _ => rfl,
      fun _ h => absurd h List.not_mem_nil⟩
  apart := by simp [Row.parts, Part.always]
  ext := by
    rintro ⟨columns⟩ ⟨columns'⟩ h
    simpa [Row.parts, Part.always] using h

theorem Row.keeps {column : Record (Column φ)}
    (hcolumn : column.read.Keeps (Column.toJson write) budget) :
    (Row.record column).read.Keeps (Row.toJson write) (budget + 2) := by
  have hmade : (Row.record column).IsMadeOf (Row.parts column write) (budget + 2 - 1) :=
    Row.isMadeOf hcolumn
  exact hmade.keeps

end Rows

/-! ### Fields -/

theorem FieldKind.lookup_word (k : FieldKind) : FieldKind.words.lookup k.word = some k := by
  cases k <;> decide

theorem columnsJson_eq (cs : List (Column FieldSpec)) :
    columnsJson cs = cs.map (Column.toJson FieldSpec.toJson) := by
  induction cs with
  | nil => rfl
  | cons c cs ih =>
    obtain ⟨span, field⟩ := c
    cases field with
    | none => rw [columnsJson, ih]; rfl
    | some f => rw [columnsJson, ih]; rfl

theorem rowsJson_eq (rs : List (Row FieldSpec)) :
    rowsJson rs = rs.map (Row.toJson FieldSpec.toJson) := by
  induction rs with
  | nil => rfl
  | cons r rs ih =>
    rw [rowsJson, ih, columnsJson_eq]
    rfl

/-- Rows as one value. -/
def rowsValue (rs : List (Row FieldSpec)) : Json := .array (rowsJson rs)

theorem rowsValue_eq : rowsValue = fun rs => .array (rs.map (Row.toJson FieldSpec.toJson)) :=
  funext fun rs => congrArg Json.array (rowsJson_eq rs)

/-- The parts of a field. -/
def FieldSpec.parts (readRows : Reader (List (Row FieldSpec))) : List (Part FieldSpec) :=
  [.always "key" true Reader.string FieldSpec.key (fun v f => { f with key := v }) .string,
   .always "type" false (Reader.oneOf FieldKind.words) FieldSpec.kind
     (fun v f => { f with kind := v }) fun k => .string k.word,
   .always "label" false Reader.string FieldSpec.label (fun v f => { f with label := v }) .string,
   .always "defaultValue" false Reader.json FieldSpec.initial
     (fun v f => { f with initial := v }) id,
   .always "options" false (Reader.list Choice.record.read) FieldSpec.choices
     (fun v f => { f with choices := v }) Choice.listJson,
   .optional "api" Binding.record.read FieldSpec.binding (fun v f => { f with binding := v })
     Binding.toJson,
   .optional "validation" FieldRules.record.read FieldSpec.rules
     (fun v f => { f with rules := v }) FieldRules.toJson,
   .optional "rows" readRows FieldSpec.rows (fun v f => { f with rows := v }) rowsValue,
   .optional "placeholder" Reader.string FieldSpec.placeholder
     (fun v f => { f with placeholder := v }) .string,
   .optional "hint" Reader.string FieldSpec.hint (fun v f => { f with hint := v }) .string,
   .always "disabled" false Reader.bool FieldSpec.disabled (fun v f => { f with disabled := v })
     .bool]

theorem FieldSpec.toJson_eq (readRows : Reader (List (Row FieldSpec))) (f : FieldSpec) :
    f.toJson = Part.object (FieldSpec.parts readRows) f := by
  obtain ⟨key, kind, label, initial, choices, binding, rules, rows, placeholder, hint,
    disabled⟩ := f
  rw [FieldSpec.toJson]
  cases rows <;> rfl

theorem FieldSpec.toJson_ne_null (f : FieldSpec) : f.toJson ≠ .null := by
  rw [FieldSpec.toJson_eq Reader.refuse]
  exact Json.noConfusion

section Fields

variable {readRows : Reader (List (Row FieldSpec))} {budget : Nat}

/-- The choices of a field are written even if there are none, so one list more may have
to be opened. -/
theorem FieldSpec.isMadeOf (writeRows : FieldSpec → Option Json)
    (hrows : readRows.Keeps rowsValue (budget + 1)) :
    (FieldSpec.recordWith readRows writeRows).IsMadeOf (FieldSpec.parts readRows)
      (budget + 1) where
  reading := rfl
  names := by simp [FieldSpec.parts, Part.always, Part.optional]
  lawful := by
    simp only [FieldSpec.parts, List.forall_mem_cons]
    exact ⟨Part.lawful_text fun _ _ => rfl,
      Part.lawful_always (Reader.keeps_oneOf FieldKind.lookup_word _) rfl fun _ _ => rfl,
      Part.lawful_text fun _ _ => rfl,
      Part.lawful_always (Reader.keeps_json _) rfl fun _ _ => rfl,
      Part.lawful_always (Reader.keeps_list (Choice.keeps _)) rfl fun _ _ => rfl,
      Part.lawful_optional (Binding.keeps _) (fun _ _ _ _ _ => Json.noConfusion) rfl
        fun _ _ => rfl,
      Part.lawful_optional (FieldRules.keeps _) (fun _ _ _ _ _ => Json.noConfusion) rfl
        fun _ _ => rfl,
      Part.lawful_optional hrows (fun _ _ _ _ _ => Json.noConfusion) rfl fun _ _ => rfl,
      Part.lawful_optionalText rfl fun _ _ => rfl, Part.lawful_optionalText rfl fun _ _ => rfl,
      Part.lawful_bool fun _ _ => rfl, fun _ h => absurd h List.not_mem_nil⟩
  apart := by simp [FieldSpec.parts, Part.always, Part.optional]
  ext := by
    rintro ⟨key, kind, label, initial, choices, binding, rules, rows, placeholder, hint, disabled⟩
      ⟨key', kind', label', initial', choices', binding', rules', rows', placeholder', hint',
        disabled'⟩ h
    simpa [FieldSpec.parts, Part.always, Part.optional] using h

theorem FieldSpec.keeps (writeRows : FieldSpec → Option Json)
    (hrows : readRows.Keeps rowsValue (budget + 1)) :
    (FieldSpec.recordWith readRows writeRows).read.Keeps FieldSpec.toJson (budget + 2) := by
  have hmade : (FieldSpec.recordWith readRows writeRows).IsMadeOf (FieldSpec.parts readRows)
      (budget + 2 - 1) := FieldSpec.isMadeOf writeRows hrows
  have hsame : FieldSpec.toJson = Part.object (FieldSpec.parts readRows) :=
    funext (FieldSpec.toJson_eq readRows)
  exact hsame ▸ hmade.keeps

end Fields

/-- Four lists and objects are opened on the way from some rows to a field in them. -/
theorem Row.keeps_listReader {field : Reader FieldSpec} {budget : Nat}
    (hfield : field.Keeps FieldSpec.toJson budget) :
    (Row.listReader field).Keeps rowsValue (budget + 4) := by
  have hcolumn := Column.keeps (fun _ => .null) hfield FieldSpec.toJson_ne_null
  exact rowsValue_eq ▸ Reader.keeps_list (Row.keeps hcolumn)

/-- **A field keeps what it reads**, whatever fields it holds. By induction on how many
levels of them there may be: the next level has five lists and objects less. -/
theorem FieldSpec.keeps_readerTo (levels budget : Nat) (hb : budget % 5 = 0 ∨ budget % 5 = 2) :
    (FieldSpec.readerTo levels).Keeps FieldSpec.toJson budget := by
  induction levels generalizing budget with
  | zero =>
    intro d f _ h
    cases h
  | succ levels ih =>
    rw [FieldSpec.readerTo]
    match budget with
    | 0 => exact Record.keeps_zero _ _
    | 1 => omega
    | 2 =>
      -- There is room for a list, but not for a row in it.
      exact FieldSpec.keeps _ (rowsValue_eq ▸ Reader.keeps_list (Record.keeps_zero _ _))
    | 3 => omega
    | 4 => omega
    | budget + 5 => exact FieldSpec.keeps _ (Row.keeps_listReader (ih budget (by omega)))

/-! ### Whole schemas -/

theorem FieldSpec.keeps_reader {budget : Nat} (hb : budget % 5 = 0 ∨ budget % 5 = 2) :
    FieldSpec.reader.Keeps FieldSpec.toJson budget := by
  intro d f hd h
  rw [FieldSpec.reader] at h ⊢
  exact FieldSpec.keeps_readerTo (budget + 1) budget hb d f hd h

theorem Row.keeps_reader {budget : Nat} (hb : budget % 5 = 0 ∨ budget % 5 = 2) :
    Row.reader.Keeps rowsValue (budget + 4) :=
  Row.keeps_listReader (FieldSpec.keeps_reader hb)

/-- The parts of a tab. -/
def Tab.parts : List (Part Tab) :=
  [.always "label" true Reader.string Tab.label (fun v t => { t with label := v }) .string,
   .always "rows" false Row.reader Tab.rows (fun v t => { t with rows := v }) rowsValue]

theorem Tab.isMadeOf {budget : Nat} (hb : budget % 5 = 0 ∨ budget % 5 = 2) :
    Tab.record.IsMadeOf Tab.parts (budget + 4) where
  reading := rfl
  names := by simp [Tab.parts, Part.always]
  lawful := by
    simp only [Tab.parts, List.forall_mem_cons]
    exact ⟨Part.lawful_text fun _ _ => rfl,
      Part.lawful_always (Row.keeps_reader hb) rfl fun _ _ => rfl,
      fun _ h => absurd h List.not_mem_nil⟩
  apart := by simp [Tab.parts, Part.always]
  ext := by
    rintro ⟨label, rows⟩ ⟨label', rows'⟩ h
    simpa [Tab.parts, Part.always] using h

theorem Tab.keeps {budget : Nat} (hb : budget % 5 = 0 ∨ budget % 5 = 2) :
    Tab.record.read.Keeps Tab.record.write (budget + 5) := by
  have hmade : Tab.record.IsMadeOf Tab.parts (budget + 5 - 1) := Tab.isMadeOf hb
  exact hmade.keeps

theorem Layout.lookup_word (l : Layout) : Layout.words.lookup l.word = some l := by
  cases l <;> decide

namespace Schema

/-- The parts of a schema. -/
def parts : List (Part Schema) :=
  [.always "title" true Reader.string Schema.title (fun v s => { s with title := v }) .string,
   .optional "description" Reader.string Schema.description
     (fun v s => { s with description := v }) .string,
   .always "layout" false (Reader.oneOf Layout.words) Schema.layout
     (fun v s => { s with layout := v }) fun l => .string l.word,
   .always "rows" false Row.reader Schema.rows (fun v s => { s with rows := v }) rowsValue,
   .always "tabs" false (Reader.list Tab.record.read) Schema.tabs
     (fun v s => { s with tabs := v }) fun ts => .array (ts.map Tab.record.write)]

/-- Both halves of a schema are kept: below its rows there is room for four lists and objects
and a multiple of five and two more, below its tabs for a multiple of five. -/
theorem isMadeOf : record.IsMadeOf parts (nestingLimit - 1) where
  reading := rfl
  names := by simp [parts, Part.always, Part.optional]
  lawful := by
    have hrows : Row.reader.Keeps rowsValue (122 + 4) := Row.keeps_reader (by decide)
    have htab : Tab.record.read.Keeps Tab.record.write (120 + 5) := Tab.keeps (by decide)
    simp only [parts, List.forall_mem_cons]
    exact ⟨Part.lawful_text fun _ _ => rfl, Part.lawful_optionalText rfl fun _ _ => rfl,
      Part.lawful_always (Reader.keeps_oneOf Layout.lookup_word _) rfl fun _ _ => rfl,
      Part.lawful_always hrows rfl fun _ _ => rfl,
      Part.lawful_always (Reader.keeps_list htab) rfl fun _ _ => rfl,
      fun _ h => absurd h List.not_mem_nil⟩
  apart := by simp [parts, Part.always, Part.optional]
  ext := by
    rintro ⟨title, description, layout, rows, tabs⟩ ⟨title', description', layout', rows', tabs'⟩ h
    simpa [parts, Part.always, Part.optional] using h

theorem keeps : record.read.Keeps toJson nestingLimit := isMadeOf.keeps

theorem ofText_eq_ok {text : String} {s : Schema} :
    ofText text = .ok s ↔
      record.read .json nestingLimit (Json.readDocument text).1 = .ok s ∧
        (Json.readDocument text).2 = true := by
  unfold ofText
  generalize Json.readDocument text = r
  obtain ⟨d, atEnd⟩ := r
  simp only [Reader.text]
  cases record.read .json nestingLimit d with
  | error flaw => simp
  | ok a => cases atEnd <;> simp

/-- **A schema is read as it is written.** Of any text that is a schema, be it written in
whatever way, the schema is written as a text that is the same schema, provided its numbers are
integers of sixty-four bits. -/
theorem ofText_toText {text : String} {s : Schema} (h : ofText text = .ok s)
    (hnumbers : ∀ n ∈ s.numbers, n.IsWord) : ofText s.toText = .ok s := by
  obtain ⟨hread, -⟩ := ofText_eq_ok.mp h
  have hagain := keeps _ s (Json.definite_readDocument text) hread
  have hdocument : Json.readDocument s.toText = (.ofJson s.toJson, true) :=
    Json.readDocument_pretty (s.numbers_toJson ▸ hnumbers)
  exact ofText_eq_ok.mpr ⟨hdocument ▸ hagain, hdocument ▸ rfl⟩

/-- A schema as a text in which structures stand as lists and as objects, members are unknown,
`null` or given twice, a word stands as an object, and there are rows that do not count. -/
def scatteredText : String :=
  "\x7b\"later\": [1.5], \"layout\": \"tabs\", \"title\": \"\\u00e9\", \"description\": null,
    \"rows\": [[[[\"6\", [\"in\", \"fieldset\", \"\", null, [], null, null,
      [[[[null, [\"n\", \"number\", \"\", \x7b\"z\": [1], \"a\": -1, \"z\": 0\x7d]]]]]]]]]],
    \"tabs\": [[\"One\", [[[\x7b\"field\": \x7b\"key\": \"s\", \"rows\": null,
      \"type\": \x7b\"select\": null\x7d,
      \"options\": [[\"t\", true], [\"i\", 18446744073709551615], [\"w\", \"w\"]],
      \"api\": [\"e\", \"l\", \"v\", \"in\", \x7b\"y\": 2, \"b\": [\"\"]\x7d],
      \"validation\": [true, 3, null, null, -9223372036854775808]\x7d\x7d]]]]]\x7d"

set_option maxRecDepth 3000 in
theorem ofText_toText_scattered :
    ∃ s, ofText scatteredText = .ok s ∧
      s.numbers = [.int (-1), .int 0, .int (2 ^ 64 - 1), .int 2, .int 3, .int (-2 ^ 63)] ∧
      ofText s.toText = .ok s := by
  have hread : (ofText scatteredText).map numbers =
      .ok [.int (-1), .int 0, .int (2 ^ 64 - 1), .int 2, .int 3, .int (-2 ^ 63)] := by
    -- It is slow to take a text apart, but a literal is made of its characters.
    have htext : scatteredText.toList = _ := String.toList_ofList
    rw [ofText, Json.readDocument, htext]
    decide +kernel
  obtain ⟨s, hs, hnumbers⟩ := Reader.map_eq_ok.mp hread
  exact ⟨s, hs, hnumbers, ofText_toText hs (hnumbers ▸ by decide)⟩

end Schema

end SmartForm
