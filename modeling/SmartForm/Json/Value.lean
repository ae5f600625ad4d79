import SmartForm.Number.Written

/-!
# JSON values

A number remembers whether it was written as an integer: `1` and `1.0` are two
values with two texts. The members of an object are a list in the order in which
they are written out; the objects that a document may fill freely are built with
`SmartForm.Json.insertMember`, which keeps them sorted by name with one member
per name.

The main definitions are

* `SmartForm.Number` – an integer or a double, with its text;
* `SmartForm.Json` – the values;
* `SmartForm.Json.member?` – looking a member up;
* `SmartForm.Json.scalarText?` – the text of a value that has one.
-/

namespace SmartForm

/-- A number of a document. -/
inductive Number where
  /-- A number written without a point and without an exponent. -/
  | int (i : Int)
  /-- Any other number. -/
  | float (d : Double)
deriving DecidableEq, Repr, Inhabited

namespace Number

/-- The number as a text. -/
def text : Number → String
  | .int i => toString i
  | .float d => d.text .echo

/-- The nearest double. -/
def toDouble : Number → Double
  | .int i => Double.ofInt i
  | .float d => d

end Number

/-- A JSON value. -/
inductive Json where
  /-- The value `null`. -/
  | null
  /-- A truth value. -/
  | bool (b : Bool)
  /-- A number. -/
  | number (n : Number)
  /-- A text. -/
  | string (s : String)
  /-- A list of values. -/
  | array (items : List Json)
  /-- Named values, in the order in which they are written. -/
  | object (members : List (String × Json))
deriving Repr, Inhabited

namespace Json

/-- The integer `i` as a value. -/
def int (i : Int) : Json := .number (.int i)

/-- The natural number `n` as a value. -/
def nat (n : Nat) : Json := .number (.int n)

/-- An optional value, `null` standing for nothing. -/
def ofOption : Option Json → Json
  | none => .null
  | some v => v

/-- A list of texts. -/
def strings (ss : List String) : Json := .array (ss.map .string)

/-! ### Members -/

/-- Puts a member among members sorted by name, replacing the one of its name. -/
def insertMember (name : String) (value : Json) : List (String × Json) → List (String × Json)
  | [] => [(name, value)]
  | (n, v) :: rest =>
    if name = n then (name, value) :: rest
    else if name < n then (name, value) :: (n, v) :: rest
    else (n, v) :: insertMember name value rest

/-- The members sorted by name; of two with one name the later is kept. -/
def sortMembers (members : List (String × Json)) : List (String × Json) :=
  members.foldl (fun ms m => insertMember m.1 m.2 ms) []

mutual

/-- The value with the members of all its objects sorted by name. -/
def sorted : Json → Json
  | .array items => .array (sortedItems items)
  | .object members => .object (sortMembers (sortedMembers members))
  | v => v

/-- The items with the members of all objects sorted. -/
def sortedItems : List Json → List Json
  | [] => []
  | v :: vs => sorted v :: sortedItems vs

/-- The members with those of the objects in them sorted. -/
def sortedMembers : List (String × Json) → List (String × Json)
  | [] => []
  | (k, v) :: ms => (k, sorted v) :: sortedMembers ms

end

/-- The member of an object with the given name. Other values have none. -/
def member? (name : String) : Json → Option Json
  | .object members => members.lookup name
  | _ => none

/-! ### Scalars -/

/-- The text, if the value is one. -/
def string? : Json → Option String
  | .string s => some s
  | _ => none

/-- The text of a text, a number or a truth value. The other values have no
text, so they never equal and never match anything. -/
def scalarText? : Json → Option String
  | .string s => some s
  | .number n => some n.text
  | .bool b => some (if b then "true" else "false")
  | _ => none

/-- Whether a value counts as not filled in: `null`, the empty text, the empty
list. The empty object is filled in. -/
def isEmpty : Json → Bool
  | .null => true
  | .string s => s.isEmpty
  | .array items => items.isEmpty
  | _ => false

end Json

end SmartForm
