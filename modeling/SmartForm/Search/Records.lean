import SmartForm.Decoding.Record
import SmartForm.Search.Source

/-!
# Search sources in documents

How sources, filters and answers stand in documents, one `SmartForm.Record` for
each structure.
-/

namespace SmartForm

/-- Filters in documents. -/
def Filter.record : Record Filter where
  name := "AutoCompleteSearchString"
  blank := ⟨"", "", .and, .contains, ""⟩
  fields :=
    [.need "parameter_name" Reader.string (fun v f => { f with parameter := v })
       fun f => .string f.parameter,
     .need "parameter_code" Reader.string (fun v f => { f with code := v })
       fun f => .string f.code,
     .need "conditional_operator" (Reader.oneOf Condition.words)
       (fun v f => { f with condition := v }) fun f => .string f.condition.word,
     .need "wildcard_operator" (Reader.oneOf Wildcard.words)
       (fun v f => { f with wildcard := v }) fun f => .string f.wildcard.word,
     .need "parameter_value" Reader.string (fun v f => { f with value := v })
       fun f => .string f.value]

/-- A filter as a value. -/
def Filter.toJson (f : Filter) : Json := Filter.record.write f

/-- Search fields in documents. -/
def SearchField.record : Record SearchField where
  name := "SearchFieldConfig"
  blank := { code := "", parameter := "" }
  fields :=
    [.need "code" Reader.string (fun v f => { f with code := v }) fun f => .string f.code,
     .give "label" Reader.string (fun v f => { f with label := v }) fun f => .string f.label,
     .need "parameterName" Reader.string (fun v f => { f with parameter := v })
       fun f => .string f.parameter,
     .skip "defaultWildcard" (Reader.option (Reader.oneOf Wildcard.words))
       (fun v f => { f with wildcard := v }) fun f => f.wildcard.map fun w => .string w.word,
     .give "allowNot" Reader.bool (fun v f => { f with allowNot := v })
       fun f => .bool f.allowNot]

/-- A search field as a value. -/
def SearchField.toJson (f : SearchField) : Json := SearchField.record.write f

/-- Columns of results in documents. -/
def TableColumn.record : Record TableColumn where
  name := "TableColumn"
  blank := { key := "" }
  fields :=
    [.need "key" Reader.string (fun v c => { c with key := v }) fun c => .string c.key,
     .give "header" Reader.string (fun v c => { c with header := v })
       fun c => .string c.header]

/-- The columns of a table of results as the one member of an object. -/
def TableColumn.tableRecord : Record (List TableColumn) where
  name := "TableConfig"
  blank := []
  fields :=
    [.give "columns" (Reader.list TableColumn.record.read) (fun v _ => v)
       fun cs => .array (cs.map TableColumn.record.write)]

/-- Search sources in documents. -/
def SearchSource.record : Record SearchSource where
  name := "SearchSourceConfig"
  blank := { key := "", endpoint := "" }
  fields :=
    [.need "key" Reader.string (fun v s => { s with key := v }) fun s => .string s.key,
     .need "endpoint" Reader.string (fun v s => { s with endpoint := v })
       fun s => .string s.endpoint,
     .give "fields" (Reader.list SearchField.record.read) (fun v s => { s with fields := v })
       fun s => .array (s.fields.map SearchField.toJson),
     .give "table" TableColumn.tableRecord.read (fun v s => { s with columns := v })
       fun s => TableColumn.tableRecord.write s.columns,
     .skip "flags" Reader.freeObject (fun v s => { s with flags := v })
       fun s => if s.flags.isEmpty then none else some (.object s.flags),
     .give "baseFilters" (Reader.list Filter.record.read)
       (fun v s => { s with baseFilters := v }) fun s => .array (s.baseFilters.map Filter.toJson)]

/-- A search source as a value. -/
def SearchSource.toJson (s : SearchSource) : Json := SearchSource.record.write s

/-- Answers in documents. -/
def SearchAnswer.record : Record SearchAnswer where
  name := "SearchResponse"
  blank := ⟨false, [], none⟩
  fields :=
    [.need "is_success" Reader.bool (fun v a => { a with isSuccess := v })
       fun a => .bool a.isSuccess,
     .give "data" (Reader.list Reader.json) (fun v a => { a with items := v })
       fun a => .array a.items,
     .skip "message" (Reader.option Reader.string) (fun v a => { a with message := v })
       fun a => a.message.map .string]

/-- An answer as a value. -/
def SearchAnswer.toJson (a : SearchAnswer) : Json := SearchAnswer.record.write a

end SmartForm
