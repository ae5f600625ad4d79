import SmartForm.Search.Failure
import SmartForm.Search.Query

/-!
# Search sessions

A `SmartForm.SearchSession` is what a user sees while typing into a search box.
It knows no clock. Time shows in it only as the order of four events:

* **update** – a text is typed (`SmartForm.SearchSession.update`);
* **emit** – the text has stood still for long enough
  (`SmartForm.SearchSession.emit`); a text equal to the one emitted before is
  dropped, any other gets the next request number and takes the place of the
  search under way;
* **begin** – the search is begun (`SmartForm.SearchSession.begin`), which asks the
  collaborator unless there is nothing to search for;
* **finish** – the collaborator has answered (`SmartForm.SearchSession.finish`).

What counts is always the latest request: a session holds at most one task, and
the answer to a request that is not the task's own changes nothing.
-/

namespace SmartForm

/-! ### What is seen -/

/-- What is seen of a session. -/
structure SearchState where
  /-- The text typed last. -/
  query : String := ""
  /-- Whether the collaborator is being asked. -/
  isLoading : Bool := false
  /-- The records found last. -/
  items : List Json := []
  /-- Why there is no result. -/
  error : Option String := none
  /-- Whether the result of a search is shown. -/
  isComplete : Bool := false
deriving Repr, Inhabited

namespace SearchState

/-- The state as a value. -/
def toJson (s : SearchState) : Json :=
  .object
    [("query", .string s.query), ("is_loading", .bool s.isLoading), ("items", .array s.items),
     ("error_message", .ofOption (s.error.map .string)),
     ("has_completed_search", .bool s.isComplete)]

/-- Whether a search has come to an end that is shown. -/
def isAnswered (s : SearchState) : Bool := s.isComplete || s.error.isSome

end SearchState

/-! ### Calls and their outcome -/

/-- What the collaborator is asked. -/
structure SearchCall where
  /-- The text without the blanks around it. -/
  query : String
  /-- The filters of the source and of the text. -/
  filters : List Filter
deriving DecidableEq, Repr

/-- The records found, or why there are none. -/
abbrev SearchOutcome := Except SearchFailure (List Json)

/-- What comes of an answer: records only if the search was carried out. -/
def SearchAnswer.outcome (a : SearchAnswer) : SearchOutcome :=
  if a.isSuccess then .ok a.items else .error (.rejected a.message)

/-! ### Sessions -/

/-- How far a search has come. -/
inductive SearchStage where
  /-- The search has not been begun. -/
  | queued
  /-- The collaborator is being asked. -/
  | asking
deriving DecidableEq, Repr

/-- A search under way. -/
structure SearchTask where
  /-- The number of the request. -/
  request : Nat
  /-- The text as it was typed. -/
  text : String
  /-- How far the search has come. -/
  stage : SearchStage := .queued
deriving DecidableEq, Repr

/-- A search box at work. -/
structure SearchSession where
  /-- What is searched. -/
  source : SearchSource
  /-- What is seen. -/
  state : SearchState := {}
  /-- How often the state was written. -/
  writes : Nat := 0
  /-- The text emitted last. -/
  emitted : Option String := none
  /-- The number of the latest request. A counter of sixty-four bits keeps it as long as
  there are fewer than `2 ^ 64` requests. -/
  latest : Nat := 0
  /-- The search under way. -/
  task : Option SearchTask := none
deriving Repr

namespace SearchSession

/-- Writes the state. -/
def write (s : SearchSession) (f : SearchState → SearchState) : SearchSession :=
  { s with state := f s.state, writes := s.writes + 1 }

/-- Writes the state on behalf of a request, if it is the latest one. -/
def writeFor (s : SearchSession) (request : Nat) (f : SearchState → SearchState) :
    SearchSession :=
  if s.latest = request then s.write f else s

/-- A text is typed. -/
def update (s : SearchSession) (text : String) : SearchSession :=
  s.write fun x => { x with query := text }

/-- A text has stood still for long enough. -/
def emit (s : SearchSession) (text : String) : SearchSession :=
  if s.emitted = some text then s
  else
    { s with
      emitted := some text
      latest := s.latest + 1
      task := some { request := s.latest + 1, text } }

/-- The call for a text; nothing if there is nothing to search for, or nothing to
search. -/
def call? (source : SearchSource) (text : String) : Option SearchCall :=
  let query := Text.trim text
  if query.isEmpty || source.endpoint.isEmpty || source.fields.isEmpty then none
  else some ⟨query, source.filters query⟩

/-- The search under way is begun. If there is nothing to search for, this is its
end and the state is that of an empty search box. -/
def begin (s : SearchSession) : SearchSession × Option SearchCall :=
  match s.task with
  | some ⟨request, text, .queued⟩ =>
    match call? s.source text with
    | none =>
      ({ s with task := none }.writeFor request fun x =>
        { x with isLoading := false, items := [], error := none, isComplete := false }, none)
    | some call =>
      ({ s with task := some ⟨request, text, .asking⟩ }.writeFor request fun x =>
        { x with isLoading := true, error := none, isComplete := false }, some call)
  | _ => (s, none)

/-- The state at the end of a search. -/
def answered (outcome : SearchOutcome) (x : SearchState) : SearchState :=
  match outcome with
  | .ok items => { x with isLoading := false, isComplete := true, items := items }
  | .error failure =>
    { x with isLoading := false, items := [], error := some failure.message }

/-- The collaborator has answered a request. -/
def finish (s : SearchSession) (request : Nat) (outcome : SearchOutcome) : SearchSession :=
  match s.task with
  | some ⟨r, _, .asking⟩ =>
    if r = request then { s with task := none }.writeFor request (answered outcome) else s
  | _ => s

end SearchSession

end SmartForm
