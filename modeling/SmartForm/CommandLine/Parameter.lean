/-!
# Parameters of commands

A command takes **options**, which have names, and **operands**, which have none. The
words of a command line are read from left to right, and what has been read so far
is a `SmartForm.WordScan`.

The one thing to know is that a parameter **waits**: its values are put into effect
when the next parameter begins or when the words come to an end
(`SmartForm.WordScan.settle`), not when they are read. So of two mistakes the one
met first need not be the one that is told.
-/

namespace SmartForm

/-- Why a command line is not carried out. -/
inductive UsageFlaw where
  /-- Help is asked for. -/
  | help
  /-- The version is asked for. -/
  | version
  /-- There is nothing on the command line. -/
  | nothingGiven
  /-- There is no command. -/
  | missingCommand
  /-- A word stands where a command should be. -/
  | unknownCommand
  /-- There is no such option, or no room for another operand. -/
  | unknownArgument
  /-- A required option or operand is missing. -/
  | missingArgument
  /-- An option that may stand once stands again. -/
  | repeatedArgument
  /-- A value is missing or empty. -/
  | emptyValue
  /-- A value is of the wrong form. -/
  | invalidValue
  /-- An option has a value and takes none. -/
  | needlessValue
deriving DecidableEq, Repr

/-- The wording of a flaw. -/
def UsageFlaw.message : UsageFlaw → String
  | help => "help is asked for"
  | version => "the version is asked for"
  | nothingGiven => "there is nothing on the command line"
  | missingCommand => "a command is missing"
  | unknownCommand => "there is no such command"
  | unknownArgument => "there is no such argument"
  | missingArgument => "a required argument is missing"
  | repeatedArgument => "an argument stands twice"
  | emptyValue => "a value is missing"
  | invalidValue => "a value is invalid"
  | needlessValue => "a value stands where none is wanted"

/-- A parameter of a command whose values are gathered in a draft of type `α`. -/
structure Parameter (α : Type) where
  /-- The name. An option has it behind two dashes. -/
  name : String
  /-- The letter that an option has behind a single dash. -/
  letter : Option Char := none
  /-- Whether it may have values again and again. -/
  repeats : Bool := false
  /-- Puts a value into the draft. -/
  take : String → α → Except UsageFlaw α

/-- An option that takes no value but ends the reading. -/
structure Ending where
  /-- The name behind two dashes. -/
  name : String
  /-- The letter behind a single dash. -/
  letter : Char
  /-- What it ends with. -/
  flaw : UsageFlaw

/-- What a command takes. -/
structure Parameters (α : Type) where
  /-- The options with values. -/
  options : List (Parameter α) := []
  /-- The options that end the reading. -/
  endings : List Ending := []
  /-- The operand. -/
  operand : Option (Parameter α) := none
  /-- The commands that may follow, which then read the rest. -/
  commands : List String := []

/-- The words of a command line as far as they have been read. -/
structure WordScan (α : Type) where
  /-- What has been put into effect. -/
  draft : α
  /-- The parameters in the draft. -/
  taken : List String := []
  /-- The parameter that waits, with its values so far. -/
  waiting : Option (Parameter α × List String) := none
  /-- Whether only operands follow. -/
  onlyOperands : Bool := false
  /-- Whether there is no room for another operand. -/
  isFull : Bool := false

namespace WordScan

variable {α : Type}

/-- Puts the values of a parameter into effect. -/
def putIn (s : WordScan α) (p : Parameter α) (values : List String) :
    Except UsageFlaw (WordScan α) :=
  if values.isEmpty then .error .emptyValue
  else if !p.repeats && s.taken.contains p.name then .error .repeatedArgument
  else
    (values.foldlM (fun a v => p.take v a) s.draft).map fun draft =>
      { s with draft, taken := p.name :: s.taken }

/-- Puts the parameter that waits into effect. -/
def settle (s : WordScan α) : Except UsageFlaw (WordScan α) :=
  match s.waiting with
  | none => .ok s
  | some (p, values) => { s with waiting := none }.putIn p values

/-- An option begins. A value that stands in the same word is put into effect at
once. -/
def begin (s : WordScan α) (p : Parameter α) (value : Option String) :
    Except UsageFlaw (WordScan α) :=
  s.settle.bind fun s =>
    match value with
    | some v => s.putIn p [v]
    | none => .ok { s with waiting := some (p, []) }

/-- Ends the reading, unless what waits is wrong. -/
def close (s : WordScan α) (flaw : UsageFlaw) : Except UsageFlaw (WordScan α) :=
  s.settle.bind fun _ => .error flaw

/-- Reads a word behind two dashes. -/
def long (ps : Parameters α) (s : WordScan α) (cs : List Char) :
    Except UsageFlaw (WordScan α) :=
  let name := String.ofList (cs.takeWhile (· ≠ '='))
  let value := match cs.dropWhile (· ≠ '=') with
    | [] => none
    | _ :: rest => some (String.ofList rest)
  match ps.options.find? fun p => p.name = name with
  | some p => s.begin p value
  | none =>
    match ps.endings.find? fun e => e.name = name with
    | none => .error .unknownArgument
    | some e => if value.isSome then .error .needlessValue else s.close e.flaw

/-- Reads a letter behind a single dash and what follows it in the word: its value,
with or without an equality sign. -/
def short (ps : Parameters α) (s : WordScan α) (c : Char) (cs : List Char) :
    Except UsageFlaw (WordScan α) :=
  let value := match cs with
    | [] => none
    | '=' :: rest => some (String.ofList rest)
    | _ => some (String.ofList cs)
  match ps.options.find? fun p => p.letter = some c with
  | some p => s.begin p value
  | none =>
    match ps.endings.find? fun e => e.letter = c with
    | none => .error .unknownArgument
    | some e => s.close e.flaw

/-- Reads a word that can only be an operand. -/
def operand (ps : Parameters α) (s : WordScan α) (word : String) :
    Except UsageFlaw (WordScan α) :=
  match ps.operand, s.isFull with
  | some p, false =>
    match s.waiting with
    | some (q, values) =>
      if p.repeats && p.name = q.name then
        .ok { s with waiting := some (q, values ++ [word]) }
      else s.settle.map fun s => { s with waiting := some (p, [word]), isFull := !p.repeats }
    | none => .ok { s with waiting := some (p, [word]), isFull := !p.repeats }
  | _, _ =>
    .error (if ps.commands.isEmpty || s.onlyOperands && ps.commands.contains word then
      .unknownArgument else .unknownCommand)

/-- The option that waits for its value. -/
def awaits? (s : WordScan α) : Option (Parameter α) :=
  match s.waiting with
  | some (p, []) => some p
  | _ => none

/-- Reads a word. -/
def word (ps : Parameters α) (s : WordScan α) (w : String) : Except UsageFlaw (WordScan α) :=
  let plain : Except UsageFlaw (WordScan α) :=
    match s.awaits? with
    | some p => .ok { s with waiting := some (p, [w]) }
    | none => s.operand ps w
  if s.onlyOperands then s.operand ps w
  else match w.toList with
    | ['-', '-'] => .ok { s with onlyOperands := true }
    | '-' :: '-' :: cs => s.long ps cs
    | '-' :: c :: cs => s.short ps c cs
    | _ => plain

/-- Reads words up to a command, which is given with the words behind it. -/
def words (ps : Parameters α) :
    WordScan α → List String → Except UsageFlaw (WordScan α × Option (String × List String))
  | s, [] => .ok (s, none)
  | s, w :: ws =>
    if !s.onlyOperands && s.awaits?.isNone && ps.commands.contains w then .ok (s, some (w, ws))
    else match s.word ps w with
      | .error flaw => .error flaw
      | .ok s => words ps s ws

end WordScan

end SmartForm
