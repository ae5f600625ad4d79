import SmartForm.Proofs.Json.RoundTrip
import SmartForm.Schema.Records

/-!
# The numbers in a schema

Numbers stand in a schema in many places, inside values that are free in form as well as on
their own (`SmartForm.Schema.numbers`). When the schema is written, all of them are, in the
same order, and no other numbers are (`SmartForm.Schema.numbers_toJson`).
-/

namespace SmartForm

/-! ### Numbers of the structures -/

/-- The number that is the value of a choice. -/
def Choice.numbers (c : Choice) : List Number :=
  match c.value with
  | .number n => [n]
  | _ => []

/-- The numbers in what every loaded record has to hold. -/
def Binding.numbers (b : Binding) : List Number := b.params.flatMap fun m => m.2.numbers

/-- The numbers in rules: lengths and bounds. -/
def FieldRules.numbers (r : FieldRules) : List Number :=
  (r.minLength.toList ++ r.maxLength.toList).map (fun n => .int n) ++
    (r.min.toList ++ r.max.toList).flatMap Json.numbers

mutual

/-- The numbers in a field, and in the fields that it holds. -/
def FieldSpec.numbers : FieldSpec → List Number
  | ⟨_, _, _, initial, choices, binding, rules, rows, _, _, _⟩ =>
    initial.numbers ++ choices.flatMap Choice.numbers ++ binding.toList.flatMap Binding.numbers ++
      rules.toList.flatMap FieldRules.numbers ++ numbersOfRows? rows

/-- The numbers in rows that may be missing. -/
def numbersOfRows? : Option (List (Row FieldSpec)) → List Number
  | none => []
  | some rows => numbersOfRows rows

/-- The numbers in rows. -/
def numbersOfRows : List (Row FieldSpec) → List Number
  | [] => []
  | ⟨columns⟩ :: rows => numbersOfColumns columns ++ numbersOfRows rows

/-- The numbers in columns. -/
def numbersOfColumns : List (Column FieldSpec) → List Number
  | [] => []
  | ⟨_, none⟩ :: columns => numbersOfColumns columns
  | ⟨_, some field⟩ :: columns => field.numbers ++ numbersOfColumns columns

end

/-- The numbers in a schema, also in the half that does not count. -/
def Schema.numbers (s : Schema) : List Number :=
  numbersOfRows s.rows ++ s.tabs.flatMap fun t => numbersOfRows t.rows

/-! ### Numbers that are written -/

@[simp]
theorem numbers_optionalText (s : Option String) :
    (optionalText s).toList.flatMap Json.numbers = [] := by
  cases s <;> rfl

theorem numbers_map {α : Type} {write : α → Json} {numbers : α → List Number}
    (h : ∀ x, (write x).numbers = numbers x) (xs : List α) :
    (xs.map write).flatMap Json.numbers = xs.flatMap numbers := by
  rw [List.flatMap_map, funext h]

/-- What is written of a record holds the numbers that are in its members. -/
theorem Record.numbers_write {α : Type} (r : Record α) (a : α) :
    (r.write a).numbers = r.fields.flatMap fun f => (f.write a).toList.flatMap Json.numbers := by
  rw [Record.write, Json.numbers, Json.memberNumbers_eq]
  induction r.fields with
  | nil => rfl
  | cons f fs ih =>
    rw [List.flatMap_cons, ← ih, List.filterMap_cons]
    cases f.write a <;> simp

theorem Choice.numbers_toJson (c : Choice) : c.toJson.numbers = c.numbers := by
  rw [Choice.toJson, Record.numbers_write, Choice.numbers]
  obtain ⟨label, value, icon, image, description⟩ := c
  cases value <;> simp [Choice.record, Field.need, Field.skip, ChoiceValue.toJson, Json.numbers]

theorem Binding.numbers_toJson (b : Binding) : b.toJson.numbers = b.numbers := by
  rw [Binding.toJson, Record.numbers_write, Binding.numbers]
  obtain ⟨endpoint, labelKey, valueKey, dependency, params⟩ := b
  cases params <;> simp [Binding.record, Field.need, Field.give, Field.skip, Json.numbers,
    Json.memberNumbers_eq]

theorem FieldRules.numbers_toJson (r : FieldRules) : r.toJson.numbers = r.numbers := by
  rw [FieldRules.toJson, Record.numbers_write, FieldRules.numbers]
  obtain ⟨required, minLength, maxLength, min, max, pattern, email⟩ := r
  cases minLength <;> cases maxLength <;>
    simp [FieldRules.record, Field.give, Field.skip, optionalNat, Json.nat, Json.numbers]

mutual

theorem FieldSpec.numbers_toJson : ∀ f : FieldSpec, f.toJson.numbers = f.numbers
  | ⟨key, kind, label, initial, choices, binding, rules, rows, placeholder, hint, disabled⟩ => by
    rw [FieldSpec.toJson, FieldSpec.numbers, Record.numbers_write, ← numbers_rowsJson? rows,
      ← numbers_map Choice.numbers_toJson, ← numbers_map Binding.numbers_toJson,
      ← numbers_map FieldRules.numbers_toJson]
    simp [FieldSpec.recordWith, Field.need, Field.give, Field.skip, Json.numbers,
      Json.itemNumbers_eq, Choice.listJson, Option.toList_map]

theorem numbers_rowsJson? : ∀ rows : Option (List (Row FieldSpec)),
    (rowsJson? rows).toList.flatMap Json.numbers = numbersOfRows? rows
  | none => rfl
  | some rows => by
    rw [numbersOfRows?, ← numbers_rowsJson rows]
    simp [rowsJson?, Json.numbers, Json.itemNumbers_eq]

theorem numbers_rowsJson : ∀ rows : List (Row FieldSpec),
    (rowsJson rows).flatMap Json.numbers = numbersOfRows rows
  | [] => rfl
  | ⟨columns⟩ :: rows => by
    rw [numbersOfRows, ← numbers_columnsJson columns, ← numbers_rowsJson rows]
    simp [rowsJson, Json.numbers, Json.itemNumbers_eq, Json.memberNumbers_eq]

theorem numbers_columnsJson : ∀ columns : List (Column FieldSpec),
    (columnsJson columns).flatMap Json.numbers = numbersOfColumns columns
  | [] => rfl
  | ⟨span, none⟩ :: columns => by
    rw [numbersOfColumns, ← numbers_columnsJson columns]
    simp [columnsJson, Record.numbers_write, Column.record, Field.skip]
  | ⟨span, some field⟩ :: columns => by
    rw [numbersOfColumns, ← numbers_columnsJson columns, ← field.numbers_toJson]
    simp [columnsJson, Record.numbers_write, Column.record, Field.skip]

end

theorem Tab.numbers_write (t : Tab) : (Tab.record.write t).numbers = numbersOfRows t.rows := by
  rw [Record.numbers_write, ← numbers_rowsJson]
  simp [Tab.record, Field.need, Field.give, Json.numbers, Json.itemNumbers_eq]

/-- **The numbers of a schema are written**, all of them and no others. -/
theorem Schema.numbers_toJson (s : Schema) : s.toJson.numbers = s.numbers := by
  rw [Schema.toJson, Record.numbers_write, Schema.numbers, ← numbers_rowsJson,
    ← numbers_map Tab.numbers_write]
  simp [Schema.record, Field.need, Field.give, Field.skip, Json.numbers, Json.itemNumbers_eq]

end SmartForm
