import SmartForm.CommandLine.Invocation
import SmartForm.Form.Engine
import SmartForm.Schema.Files
import SmartForm.Search.Query
import SmartForm.Search.Timeline

/-!
# Reports

`SmartForm.report` carries a command line out and gives the value to be shown. Forms
and searches take their records from the catalog of the settings, which answers
without delay.
-/

namespace SmartForm

/-- Why there is no report. -/
inductive ReportFlaw where
  /-- The command line is not carried out. -/
  | usage (flaw : UsageFlaw)
  /-- There are no settings. -/
  | settings (flaw : SettingsFlaw)
  /-- There is no schema. -/
  | schema (flaw : SchemaFlaw)
  /-- The form does not do what is asked for. -/
  | form (flaw : FormFlaw)
  /-- There is no source with the given key. -/
  | unknownSource (key : String)
  /-- The search does not come to an end. -/
  | endless
deriving DecidableEq, Repr

/-- The wording of a flaw. -/
def ReportFlaw.message : ReportFlaw → String
  | usage flaw => flaw.message
  | settings flaw => flaw.message
  | schema flaw => flaw.message
  | form flaw => flaw.message
  | unknownSource key => "Unknown search source '" ++ key ++ "'"
  | endless => "the search does not come to an end"

/-- What is shown of a form. -/
structure FormReport where
  /-- The title of the schema. -/
  title : String
  /-- The values by key. -/
  value : List (String × Json)
  /-- Whether the values do nothing wrong. -/
  isValid : Bool
  /-- What the values do wrong, where they do. -/
  errors : List (String × List Violation)
  /-- The choices that are worth showing. -/
  fields : List (String × LoadState)

/-- What is shown of a form as a value. -/
def FormReport.toJson (r : FormReport) : Json :=
  .object
    [("title", .string r.title), ("value", .object r.value), ("valid", .bool r.isValid),
     ("errors", .object (r.errors.map fun (key, vs) =>
      (key, .strings (vs.map Violation.message)))),
     ("fields", .object (r.fields.map fun (key, x) => (key, x.toJson)))]

namespace Report

/-! ### Forms -/

/-- The catalog of the settings as a loader. -/
def loader (s : Settings) : Loader := fun b dependency => (0, s.catalog.load b dependency)

/-- The first key in some assignments that is no key of a form. -/
def unknownKey? (f : Form) (assignments : List Assignment) : Option String :=
  (assignments.find? fun a => (f.control? a.key).isNone).map Assignment.key

/-- Whether the choices of a field are worth showing: there are some or have been
loaded. -/
def isShown (x : LoadState) : Bool := !x.choices.isEmpty || decide (x.phase ≠ .idle)

/-- A form as it is shown. -/
def ofForm (title : String) (f : Form) : FormReport where
  title := title
  value := f.value
  isValid := f.isValid
  errors := f.errors
  fields := f.keys.filterMap fun key => ((f.state? key).filter isShown).map fun x => (key, x)

/-- The form of a schema with values in it. All loads come to an end before the values
are put in and before the form is shown. Of two values for a field the later counts. -/
def inspect (s : Settings) (schema : Schema) (assignments : List Assignment) :
    Except ReportFlaw FormReport :=
  let engine : FormEngine := { service := ⟨loader s, s.loadTimeout⟩ }
  let engine := (engine.load schema).settle.1
  match unknownKey? engine.form assignments with
  | some key => .error (.form (.unknownControl key))
  | none =>
    let values := Json.sortMembers (assignments.map fun a => (a.key, a.value))
    .ok (ofForm schema.title (engine.patch values).settle.1.form)

/-! ### Searches -/

/-- The source with a key. -/
def source (s : Settings) (key : String) : Except ReportFlaw SearchSource :=
  match s.source? key with
  | some x => .ok x
  | none => .error (.unknownSource key)

/-- How a search ends that is awaited for at most `patience` milliseconds, if that is
given. A query of blanks is not searched for, so there is nothing to wait for. -/
def search (s : Settings) (patience : Option Nat) (source : SearchSource) (query : String) :
    Except ReportFlaw SearchState :=
  let timeline : SearchTimeline :=
    { session := { source }
      searcher := fun call => (0, .ok (s.catalog.search source.endpoint call.filters))
      debounce := s.debounce
      timeout := s.searchTimeout }
  let t := timeline.update query
  if Text.isAllBlank query then .ok t.session.state
  else
    let (t, reached) := t.await patience
    if reached then .ok t.session.state else .error .endless

end Report

/-- Carries a command out with some settings. A search is awaited for at most `patience`
milliseconds, if that is given. -/
def Command.report {m : Type → Type} [Monad m] (files : FileAccess m) (s : Settings)
    (patience : Option Nat) : Command → m (Except ReportFlaw Json)
  | .inspect path assignments => do
    match ← Schema.ofFile files path with
    | .error flaw => return .error (.schema flaw)
    | .ok schema => return (Report.inspect s schema assignments).map FormReport.toJson
  | .parse key query =>
    return (Report.source s key).map fun x => .array ((Query.parse query x).map Filter.toJson)
  | .search key query =>
    return ((Report.source s key).bind fun x => Report.search s patience x query).map
      SearchState.toJson

/-- Carries the words of a command line out. The members of all objects in the report
are sorted by name. A search is awaited for at most `patience` milliseconds, if that is
given. -/
def report {m : Type → Type} [Monad m] (files : FileAccess m) (words : List String)
    (patience : Option Nat := none) : m (Except ReportFlaw Json) := do
  match Invocation.parse words with
  | .error flaw => return .error (.usage flaw)
  | .ok invocation =>
    match ← Settings.withMain files invocation.config invocation.times with
    | .error flaw => return .error (.settings flaw)
    | .ok s => return (← invocation.command.report files s patience).map Json.sorted

end SmartForm
