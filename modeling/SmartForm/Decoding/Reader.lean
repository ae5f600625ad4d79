import SmartForm.Decoding.Flaw
import SmartForm.Yaml.Scalar

/-!
# Reading typed values from documents

A `SmartForm.Reader` turns a document into a value of a type or says what is wrong
with it. Readers take two more arguments: the **dialect** of the document, which
says how forgiving the leaves are, and the number of lists and objects that may
still be opened.

The dialects differ in the following.

* In `SmartForm.Dialect.json` nothing is converted, and a word of a closed set may
  stand as an object with one member that is `null`.
* In `SmartForm.Dialect.value` the same holds of a value that has been read before,
  so nothing in it is malformed and the flaws of words and lengths have names.
* In `SmartForm.Dialect.yaml` a text without quotes is what the reader wants it to
  be, and an empty one may stand for a list or an object without content.
* In `SmartForm.Dialect.toml` there is no `null`.
* In `SmartForm.Dialect.settings` numbers, truth values and texts stand in for each
  other.

Readers of whole objects are in `SmartForm.Record`.
-/

namespace SmartForm

/-- How the leaves of a document are understood. -/
inductive Dialect where
  /-- A JSON text. -/
  | json
  /-- A value that has been read already. -/
  | value
  /-- A YAML text. -/
  | yaml
  /-- A TOML text. -/
  | toml
  /-- The layers of a settings file. -/
  | settings
deriving DecidableEq, Repr

/-- Reads a document of some dialect in which a number of lists and objects may
still be opened. -/
abbrev Reader (α : Type) := Dialect → Nat → Document → Except Flaw α

/-- How many lists and objects may lie inside each other in a JSON text. -/
def nestingLimit : Nat := 127

namespace Reader

/-- Reads with one reader and turns the result over to a function. -/
def map {α β : Type} (f : α → β) (r : Reader α) : Reader β :=
  fun dialect budget d => (r dialect budget d).map f

/-! ### Leaves -/

/-- Reads a text. -/
def string : Reader String := fun dialect _ d =>
  match d with
  | .string s => .ok s
  | .bare s => .ok s
  | .number (.int i) =>
    if dialect = .settings then .ok (toString i) else .error (d.mismatch "a string")
  | .number (.float x) =>
    if dialect = .settings then .ok (x.text .plain) else .error (d.mismatch "a string")
  | .bool b =>
    if dialect = .settings then .ok (if b then "true" else "false")
    else .error (d.mismatch "a string")
  | _ => .error (d.mismatch "a string")

/-- The truth value that a word of a settings file stands for. -/
def boolOfWord? (s : String) : Option Bool :=
  let w := s.toList.map Char.toLower
  if w = "1".toList ∨ w = "true".toList ∨ w = "on".toList ∨ w = "yes".toList then some true
  else if w = "0".toList ∨ w = "false".toList ∨ w = "off".toList ∨ w = "no".toList then
    some false
  else none

/-- Reads a truth value. -/
def bool : Reader Bool := fun dialect _ d =>
  let wanted := "a boolean"
  match dialect, d with
  | _, .bool b => .ok b
  | .yaml, .bare s =>
    match Yaml.bool? s with
    | some b => .ok b
    | none => .error (d.mismatch wanted)
  | .settings, .number (.int i) => .ok (decide (i ≠ 0))
  | .settings, .number (.float x) => .ok (decide (x.compare (.finite false 0) ≠ some .eq))
  | .settings, .string s =>
    match boolOfWord? s with
    | some b => .ok b
    | none => .error (d.mismatch wanted)
  | _, _ => .error (d.mismatch wanted)

/-- The number that a text of a settings file stands for. -/
def wordOfText? (s : String) : Option Nat :=
  let cs := s.toList
  let w := cs.map Char.toLower
  if w = "true".toList ∨ w = "on".toList ∨ w = "yes".toList then some 1
  else if w = "false".toList ∨ w = "off".toList ∨ w = "no".toList then some 0
  else
    let ds := match cs with
      | '+' :: rest => rest
      | _ => cs
    if ds.isEmpty || !ds.all Char.isDigit then none
    else
      let n := Digits.value ds
      if Word.fits n then some n else none

/-- Reads a natural number of sixty-four bits, called `wanted` in messages. -/
def word (wanted : String) : Reader Nat := fun dialect _ d =>
  match dialect, d with
  | _, .number (.int i) =>
    if 0 ≤ i ∧ Word.fits i.toNat then .ok i.toNat else .error (.wrongValue d.kindText wanted)
  | .yaml, .bare s =>
    match Yaml.int? s with
    | some i =>
      if 0 ≤ i ∧ Word.fits i.toNat then .ok i.toNat else .error (.wrongValue d.kindText wanted)
    | none => .error (d.mismatch wanted)
  | .settings, .number (.float x) => .ok x.toWord
  | .settings, .bool b => .ok (if b then 1 else 0)
  | .settings, .string s =>
    match wordOfText? s with
    | some n => .ok n
    | none => .error (d.mismatch wanted)
  | _, _ => .error (d.mismatch wanted)

/-- Reads a value that may be missing: `null` stands for nothing. -/
def option {α : Type} (r : Reader α) : Reader (Option α) := fun dialect budget d =>
  match dialect, d with
  | _, .null => .ok none
  | .yaml, .bare s =>
    if Yaml.isNull s then .ok none else (r dialect budget d).map some
  | _, _ => (r dialect budget d).map some

/-! ### Lists and free-form values -/

/-- Reads a list with a reader for its items. -/
def list {α : Type} (item : Reader α) : Reader (List α) := fun dialect budget d =>
  match d with
  | .array items closed =>
    match budget with
    | 0 => .error .malformed
    | budget + 1 => do
      let vs ← items.mapM (item dialect budget)
      if closed then .ok vs else .error .malformed
  | .bare "" => if dialect = .yaml then .ok [] else .error (d.mismatch "a sequence")
  | _ => .error (d.mismatch "a sequence")

mutual

/-- Reads any value, with at most `budget` lists and objects inside each other.
Members are sorted by name, and of two with one name the later is kept. -/
def freeValue (budget : Nat) : Document → Except Flaw Json
  | .null => .ok .null
  | .bool b => .ok (.bool b)
  | .number (.int i) => .ok (.number (.int i))
  | .number (.float d) => .ok (if d.isFinite then .number (.float d) else .null)
  | .string s => .ok (.string s)
  | .bare s => .ok (Yaml.resolve s)
  | .unreadable => .error .malformed
  | .broken => .error .malformed
  | .array items closed =>
    match budget with
    | 0 => .error .malformed
    | budget + 1 => do
      let vs ← freeItems budget items
      if closed then .ok (.array vs) else .error .malformed
  | .object members closed =>
    match budget with
    | 0 => .error .malformed
    | budget + 1 => do
      let ms ← freeMembers budget members
      if closed then .ok (.object (Json.sortMembers ms)) else .error .malformed

/-- Reads all items as any values. -/
def freeItems (budget : Nat) : List Document → Except Flaw (List Json)
  | [] => .ok []
  | d :: ds => do
    let v ← freeValue budget d
    let vs ← freeItems budget ds
    .ok (v :: vs)

/-- Reads all members as any values. A name has to be readable. -/
def freeMembers (budget : Nat) :
    List (Option String × Document) → Except Flaw (List (String × Json))
  | [] => .ok []
  | (none, _) :: _ => .error .malformed
  | (some k, d) :: ms => do
    let v ← freeValue budget d
    let vs ← freeMembers budget ms
    .ok ((k, v) :: vs)

end

/-- Reads any value. -/
def json : Reader Json := fun _ budget d => freeValue budget d

/-- Reads an object with any members. -/
def freeObject : Reader (List (String × Json)) := fun dialect budget d =>
  match d with
  | .object _ _ => (freeValue budget d).map fun v =>
    match v with
    | .object members => members
    | _ => []
  | .bare "" => if dialect = .yaml then .ok [] else .error (d.mismatch "a map")
  | _ => .error (d.mismatch "a map")

/-! ### Words of a closed set -/

/-- The value that one of the known words stands for. -/
def known {α : Type} (words : List (String × α)) (name : String) : Except Flaw α :=
  match words.lookup name with
  | some a => .ok a
  | none => .error (.unknownVariant name (words.map Prod.fst))

/-- What stands beside a word has to be `null`. -/
def nothing (d : Document) : Except Flaw Unit :=
  match d with
  | .null => .ok ()
  | d => .error (d.mismatch "unit")

/-- Reads one of the known words. -/
def oneOf {α : Type} (words : List (String × α)) : Reader α := fun dialect budget d =>
  match dialect, d with
  | _, .string s => known words s
  | .yaml, .bare s => known words s
  | .json, .object members closed =>
    match budget, members with
    | _ + 1, (some name, v) :: rest => do
      let a ← known words name
      nothing v
      if rest.isEmpty && closed then .ok a else .error .malformed
    | _, _ => .error .malformed
  | .json, _ => .error .malformed
  | .value, .object [(some name, v)] _ => do
    let a ← known words name
    nothing v
    .ok a
  | .value, .object _ _ => .error (.wrongValue "map" "map with a single key")
  | .settings, .object [(some name, _)] _ => known words name
  | _, d => .error (d.mismatch "string or map")

end Reader

end SmartForm
