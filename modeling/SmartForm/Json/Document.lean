import SmartForm.Json.Value

/-!
# Documents as they are read

A `SmartForm.Document` is a text as far as it could be read: a tree in reading
order that says where the reading broke off. Nothing behind that place is in the
tree, and every list and object around it is marked as not closed. So whoever
walks the tree from the front meets a wrong value before a broken text exactly
when the wrong value comes first.

Two kinds of leaf stand for texts that only some readers can use: a leaf is
**unreadable** if it has the form of a number or of a quoted text but no value
(it may be skipped, not read), and **bare** if it stands without quotes and its
reader decides what it is.
-/

namespace SmartForm

/-- A text as far as it could be read. -/
inductive Document where
  /-- The value `null`. -/
  | null
  /-- A truth value. -/
  | bool (b : Bool)
  /-- A number. -/
  | number (n : Number)
  /-- A quoted text. -/
  | string (s : String)
  /-- A text without quotes, to be understood by whoever reads it. -/
  | bare (s : String)
  /-- A leaf of the right form that has no value. -/
  | unreadable
  /-- The place where the reading broke off. -/
  | broken
  /-- A list; `closed` tells whether its end was reached. -/
  | array (items : List Document) (closed : Bool)
  /-- An object with its members in reading order, repetitions included; a name
  without a value is `none`. -/
  | object (members : List (Option String × Document)) (closed : Bool)
deriving Repr, Inhabited

namespace Document

mutual

/-- A value as a document that was read completely. -/
def ofJson : Json → Document
  | .null => .null
  | .bool b => .bool b
  | .number n => .number n
  | .string s => .string s
  | .array items => .array (ofItems items) true
  | .object members => .object (ofMembers members) true

/-- The items of a list as documents. -/
def ofItems : List Json → List Document
  | [] => []
  | v :: vs => ofJson v :: ofItems vs

/-- The members of an object as documents. -/
def ofMembers : List (String × Json) → List (Option String × Document)
  | [] => []
  | (k, v) :: ms => (some k, ofJson v) :: ofMembers ms

end

mutual

/-- Whether the text of the document has the right form, so that it can be
skipped. There is no limit on the nesting here. -/
def complete : Document → Bool
  | .broken => false
  | .array items closed => completeItems items && closed
  | .object members closed => completeMembers members && closed
  | _ => true

/-- Whether all items have the right form. -/
def completeItems : List Document → Bool
  | [] => true
  | d :: ds => complete d && completeItems ds

/-- Whether all members have the right form. -/
def completeMembers : List (Option String × Document) → Bool
  | [] => true
  | (_, d) :: ms => complete d && completeMembers ms

end

mutual

/-- How many lists and objects lie inside each other at the deepest place. -/
def depth : Document → Nat
  | .array items _ => depthItems items + 1
  | .object members _ => depthMembers members + 1
  | _ => 0

/-- The greatest depth of the items. -/
def depthItems : List Document → Nat
  | [] => 0
  | d :: ds => max (depth d) (depthItems ds)

/-- The greatest depth of the members. -/
def depthMembers : List (Option String × Document) → Nat
  | [] => 0
  | (_, d) :: ms => max (depth d) (depthMembers ms)

end

end Document

end SmartForm
