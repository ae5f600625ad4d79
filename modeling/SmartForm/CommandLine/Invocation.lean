import SmartForm.CommandLine.Assignment
import SmartForm.CommandLine.Parameter
import SmartForm.Settings.Load

/-!
# What a command line says

A command line names the main file of the settings, may give times that hold instead
of those in the settings, and then has one of three commands:

* `inspect` fills in the form of a schema and shows it;
* `parse` shows what a query means;
* `search` carries a query out.

`SmartForm.Invocation.parse` reads it. What the command takes is read before the last
option in front of it is put into effect.
-/

namespace SmartForm

/-- What is to be done. -/
inductive Command where
  /-- Fill in the form of the schema at a path and show it. -/
  | inspect (schema : String) (assignments : List Assignment)
  /-- Show what a query means to the source with a key. -/
  | parse (source query : String)
  /-- Carry a query out in the source with a key. -/
  | search (source query : String)
deriving Repr

/-- What a command line says. -/
structure Invocation where
  /-- The path of the main file of the settings. -/
  config : String
  /-- The times that hold instead of those in the settings. -/
  times : TimeOverrides
  /-- What is to be done. -/
  command : Command
deriving Repr

namespace Command

/-! ### Values -/

/-- A path; it cannot be empty. -/
def pathOf (text : String) : Except UsageFlaw String :=
  if text.isEmpty then .error .emptyValue else .ok text

/-- A natural number of sixty-four bits, with or without a plus sign. -/
def wordOf (text : String) : Except UsageFlaw Nat :=
  let digits := match text.toList with
    | '+' :: rest => rest
    | cs => cs
  if digits.isEmpty || !digits.all Char.isDigit || !Word.fits (Digits.value digits) then
    .error .invalidValue
  else .ok (Digits.value digits)

/-- An assignment. -/
def assignmentOf (text : String) : Except UsageFlaw Assignment :=
  (Assignment.parse text).mapError fun _ => .invalidValue

/-! ### Commands -/

/-- Asks for help. -/
def helpEnding : Ending := ⟨"help", 'h', .help⟩

/-- Asks for the version. -/
def versionEnding : Ending := ⟨"version", 'V', .version⟩

/-- The words for `inspect` as far as they have been read. -/
structure InspectDraft where
  /-- The path of the schema. -/
  schema : Option String := none
  /-- The assignments in their order. -/
  assignments : List Assignment := []

/-- What `inspect` takes. -/
def inspectParameters : Parameters InspectDraft where
  options :=
    [{ name := "set"
       repeats := true
       take := fun text d => (assignmentOf text).map fun a =>
        { d with assignments := d.assignments ++ [a] } }]
  endings := [helpEnding]
  operand := some
    { name := "SCHEMA"
      take := fun text d => (pathOf text).map fun p => { d with schema := some p } }

/-- The words for `parse` and `search` as far as they have been read. -/
structure QueryDraft where
  /-- The key of the source. -/
  source : Option String := none
  /-- The words of the query. -/
  words : List String := []

/-- What `parse` and `search` take. -/
def queryParameters : Parameters QueryDraft where
  options :=
    [{ name := "source", take := fun text d => .ok { d with source := some text } }]
  endings := [helpEnding]
  operand := some
    { name := "QUERY"
      repeats := true
      take := fun text d => .ok { d with words := d.words ++ [text] } }

/-- Reads all words of a command. -/
def draft {α : Type} (ps : Parameters α) (blank : α) (words : List String) :
    Except UsageFlaw α := do
  let (s, _) ← WordScan.words ps { draft := blank } words
  return (← s.settle).draft

/-- Reads the words behind `inspect`. -/
def ofInspect (words : List String) : Except UsageFlaw Command := do
  let d ← draft inspectParameters {} words
  match d.schema with
  | some schema => return .inspect schema d.assignments
  | none => throw .missingArgument

/-- Reads the words behind `parse` or `search`. The query has a space between two
words. -/
def ofQuery (make : String → String → Command) (words : List String) :
    Except UsageFlaw Command := do
  let d ← draft queryParameters {} words
  match d.source, d.words with
  | some source, _ :: _ => return make source (" ".intercalate d.words)
  | _, _ => throw .missingArgument

/-- The names of the commands. -/
def names : List String := ["inspect", "parse", "search", "help"]

/-- What the words behind `help` ask for: help on everything or on one command. -/
def helpOn : List String → UsageFlaw
  | [] => .help
  | [name] => if names.contains name then .help else .unknownCommand
  | _ => .unknownCommand

/-- Reads a command from its name and the words behind it. -/
def ofWords (name : String) (words : List String) : Except UsageFlaw Command :=
  match name with
  | "inspect" => ofInspect words
  | "parse" => ofQuery .parse words
  | "search" => ofQuery .search words
  | _ => .error (helpOn words)

end Command

namespace Invocation

/-- The path of the main file if none is given. -/
def defaultConfig : String := Settings.mainName ++ ".toml"

/-- The words in front of the command as far as they have been read. -/
structure Draft where
  /-- The path of the main file. -/
  config : String := defaultConfig
  /-- The times. -/
  times : TimeOverrides := {}

/-- What may stand in front of the command. -/
def parameters : Parameters Draft where
  options :=
    [{ name := "config"
       letter := some 'c'
       take := fun text d => (Command.pathOf text).map fun p => { d with config := p } },
     { name := "debounce-ms"
       take := fun text d => (Command.wordOf text).map fun n =>
        { d with times := { d.times with debounce := some n } } },
     { name := "timeout-ms"
       take := fun text d => (Command.wordOf text).map fun n =>
        { d with times := { d.times with timeout := some n } } }]
  endings := [Command.helpEnding, Command.versionEnding]
  commands := Command.names

/-- Reads the words of a command line. -/
def parse (words : List String) : Except UsageFlaw Invocation := do
  let (s, rest) ← WordScan.words parameters { draft := {} } words
  match rest with
  | none =>
    let s ← s.settle
    throw (if s.taken.isEmpty then .nothingGiven else .missingCommand)
  | some (name, rest) =>
    let command ← Command.ofWords name rest
    let s ← s.settle
    return { config := s.draft.config, times := s.draft.times, command }

end Invocation

end SmartForm
