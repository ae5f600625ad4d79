import SmartForm.Decoding.Reader

/-!
# Records

A `SmartForm.Record` describes a structure as it stands in documents: the members
in the order in which they are declared, each with its name, whether it has to be
there, how it is read and how it is written. Reading
(`SmartForm.Record.read`) and writing (`SmartForm.Record.write`) both follow this
one description.

A record is read from an object whose members come in any order, or from a list
of its members in the declared order, from the end of which those with a default
may be absent. Flaws come in document order; members that are missing altogether
come last, in the declared order.
-/

namespace SmartForm

/-- One member of a structure as it stands in documents. -/
structure Field (α : Type) where
  /-- The name of the member. -/
  name : String
  /-- Whether the member has to be there. -/
  required : Bool
  /-- Reads the member and puts it into the structure. -/
  read : Reader (α → α)
  /-- The member as it is written; nothing if it is left out. -/
  write : α → Option Json

/-- A structure as it stands in documents. -/
structure Record (α : Type) where
  /-- What messages call the structure. -/
  name : String
  /-- The structure before any member is read. -/
  blank : α
  /-- The members in the declared order. -/
  fields : List (Field α)

namespace Field

/-- A member that has to be there. -/
def need {α β : Type} (name : String) (reader : Reader β) (set : β → α → α)
    (write : α → Json) : Field α :=
  ⟨name, true, reader.map set, fun a => some (write a)⟩

/-- A member with a default that is always written. -/
def give {α β : Type} (name : String) (reader : Reader β) (set : β → α → α)
    (write : α → Json) : Field α :=
  ⟨name, false, reader.map set, fun a => some (write a)⟩

/-- A member with a default that is left out when there is nothing to write. -/
def skip {α β : Type} (name : String) (reader : Reader β) (set : β → α → α)
    (write : α → Option Json) : Field α :=
  ⟨name, false, reader.map set, write⟩

end Field

namespace Record

variable {α : Type}

/-! ### Writing -/

/-- The structure as an object, its members in the declared order. -/
def write (r : Record α) (a : α) : Json :=
  .object (r.fields.filterMap fun f => (f.write a).map fun v => (f.name, v))

/-! ### Reading -/

/-- The first declared member that has to be there and has not been met. -/
def missing? (r : Record α) (met : List String) : Option String :=
  (r.fields.find? fun f => f.required && !met.contains f.name).map Field.name

/-- Reads members in document order into a structure. Members of other names are
skipped; `met` are the names met so far. -/
def readMembers (r : Record α) (dialect : Dialect) (budget : Nat) (met : List String) (a : α) :
    List (Option String × Document) → Except Flaw (List String × α)
  | [] => .ok (met, a)
  | (none, _) :: _ => .error .malformed
  | (some name, d) :: rest =>
    match r.fields.find? fun f => f.name = name with
    | none =>
      if d.complete then readMembers r dialect budget met a rest else .error .malformed
    | some f =>
      if met.contains name then .error (.duplicateField name)
      else match f.read dialect budget d with
        | .error flaw => .error flaw
        | .ok set => readMembers r dialect budget (name :: met) (set a) rest

/-- Reads an object. -/
def readObject (r : Record α) (dialect : Dialect) (budget : Nat)
    (members : List (Option String × Document)) (closed : Bool) : Except Flaw α :=
  match r.readMembers dialect budget [] r.blank members with
  | .error flaw => .error flaw
  | .ok (met, a) =>
    if !closed then .error .malformed
    else match r.missing? met with
      | some name => .error (.missingField name)
      | none => .ok a

/-- How messages call a list that is as long as the structure. -/
def wantedLength (r : Record α) : String :=
  let n := r.fields.length
  "struct " ++ r.name ++ " with " ++ toString n ++ (if n = 1 then " element" else " elements")

/-- Reads the items of a list into the members, of which `count` have been read;
returns what is left of the list. -/
def readItems (r : Record α) (dialect : Dialect) (budget : Nat) (closed : Bool) (count : Nat)
    (a : α) : List (Field α) → List Document → Except Flaw (α × List Document)
  | [], rest => .ok (a, rest)
  | f :: fs, [] =>
    if !closed then .error .malformed
    else if f.required then .error (.wrongLength count r.wantedLength)
    else readItems r dialect budget closed (count + 1) a fs []
  | f :: fs, d :: rest =>
    match f.read dialect budget d with
    | .error flaw => .error flaw
    | .ok set => readItems r dialect budget closed (count + 1) (set a) fs rest

/-- Reads a list of the members in the declared order. -/
def readArray (r : Record α) (dialect : Dialect) (budget : Nat) (items : List Document)
    (closed : Bool) : Except Flaw α :=
  match r.readItems dialect budget closed 0 r.blank r.fields items with
  | .error flaw => .error flaw
  | .ok (a, rest) =>
    match dialect with
    | .json => if rest.isEmpty && closed then .ok a else .error .malformed
    | .value =>
      if rest.isEmpty then .ok a
      else .error (.wrongLength items.length "fewer elements in array")
    | _ => .ok a

/-- Reads a structure. -/
def read (r : Record α) : Reader α := fun dialect budget d =>
  let wanted := "struct " ++ r.name
  match d with
  | .object members closed =>
    match budget with
    | 0 => .error .malformed
    | budget + 1 => r.readObject dialect budget members closed
  | .array items closed =>
    if dialect = .yaml then .error (d.mismatch wanted)
    else match budget with
      | 0 => .error .malformed
      | budget + 1 => r.readArray dialect budget items closed
  | .bare "" =>
    if dialect = .yaml then r.readObject dialect budget [] true else .error (d.mismatch wanted)
  | _ => .error (d.mismatch wanted)

end Record

namespace Reader

/-- Reads a whole JSON text: nothing but blanks may follow the value. -/
def text {α : Type} (r : Reader α) (d : Document) (atEnd : Bool) : Except Flaw α :=
  match r .json nestingLimit d with
  | .error flaw => .error flaw
  | .ok a => if atEnd then .ok a else .error .malformed

/-- Reads a value that has been read before. It may be as deep as it is. -/
def value {α : Type} (r : Reader α) (v : Json) : Except Flaw α :=
  let d := Document.ofJson v
  r .value d.depth d

end Reader

end SmartForm
