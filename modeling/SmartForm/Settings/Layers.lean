import SmartForm.Number.Reader
import SmartForm.Settings.Basic

/-!
# Layers of settings

Settings are found in layers, each on top of those before it: what is set anyway,
then what the main file says. The one thing to know is that a table is never
replaced by a table, but taken in **member by member**
(`SmartForm.Json.mergeMember`), while any other value replaces what lies below it.

At the top of a file a name may be a path: `search.debounce_ms` is a member of a
member and `sources[0]` an item of a list. Tables and lists on the way are made
where there are none.
-/

namespace SmartForm

namespace Json

mutual

/-- Puts a value under a name, into a table that is made if there is none. The
members of a table are taken in one by one. -/
def mergeMember (name : String) (v below : Json) : Json :=
  let members := match below with
    | .object ms => ms
    | _ => []
  match v with
  | .object incoming =>
    let target := (members.lookup name).getD (.object [])
    .object (insertMember name (mergeMembers incoming target) members)
  | v => .object (insertMember name v members)

/-- Puts values under their names, one after the other. -/
def mergeMembers : List (String × Json) → Json → Json
  | [], below => below
  | (k, v) :: ms, below => mergeMembers ms (mergeMember k v below)

end

end Json

/-! ### Places -/

/-- A step into a value. -/
inductive PlaceStep where
  /-- To the member of a name. -/
  | member (name : String)
  /-- To the item of an index, counted from the end if it is negative. -/
  | item (index : Int)
deriving DecidableEq, Repr

namespace PlaceStep

/-- Whether a character may stand in a name of a path. -/
def isNameChar (c : Char) : Bool := c.isAlphanum || c = ' ' || c = '_' || c = '-'

/-- The name at the beginning and what follows it. -/
def name? (cs : List Char) : Option (String × List Char) :=
  let name := cs.takeWhile isNameChar
  if name.isEmpty then none else some (String.ofList name, cs.drop name.length)

/-- Whether a character may stand around an index. -/
def isGap (c : Char) : Bool := c = ' ' || c = '\t'

/-- The index at the beginning and what follows its closing bracket. -/
def index? (cs : List Char) : Option (Int × List Char) :=
  let cs := cs.dropWhile isGap
  let (negative, cs) := match cs with
    | '-' :: rest => (true, rest)
    | _ => (false, cs)
  let digits := cs.takeWhile Char.isDigit
  let n : Nat := Digits.value digits
  match (cs.drop digits.length).dropWhile isGap with
  | ']' :: rest =>
    if digits.isEmpty || Word.half ≤ n then none
    else some (if negative then -(n : Int) else n, rest)
  | _ => none

/-- The steps behind a name. -/
def steps? : Nat → List Char → Option (List PlaceStep)
  | 0, _ => none
  | _ + 1, [] => some []
  | fuel + 1, '.' :: rest =>
    (name? rest).bind fun (name, rest) => (steps? fuel rest).map (.member name :: ·)
  | fuel + 1, '[' :: rest =>
    (index? rest).bind fun (i, rest) => (steps? fuel rest).map (.item i :: ·)
  | _ + 1, _ => none

/-- The place that a name at the top of a file means. What is no path is a name. -/
def ofKey (key : String) : List PlaceStep :=
  let cs := key.toList
  match (name? cs).bind fun (name, rest) => (steps? (cs.length + 1) rest).map (.member name :: ·)
  with
  | some place => place
  | none => [.member key]

end PlaceStep

namespace Json

/-- Where an index leads in a list of some length. -/
def position (length : Nat) (index : Int) : Nat :=
  if 0 ≤ index then index.toNat else length - index.natAbs

/-- Puts a value at a place. -/
def mergeAt (v : Json) : List PlaceStep → Json → Json
  | [], _ => v
  | [.member name], below => mergeMember name v below
  | .member name :: steps, below =>
    let members := match below with
      | .object ms => ms
      | _ => []
    .object (insertMember name (mergeAt v steps ((members.lookup name).getD .null)) members)
  | .item index :: steps, below =>
    let items := match below with
      | .array vs => vs
      | _ => []
    let i := position items.length index
    let items := items ++ List.replicate (i + 1 - items.length) .null
    .array (items.modify i (mergeAt v steps))

/-- A value with a layer on top of it. A layer that is no table says nothing. -/
def overlay (below layer : Json) : Json :=
  match layer with
  | .object members => members.foldl (fun t (k, v) => mergeAt v (PlaceStep.ofKey k) t) below
  | _ => below

mutual

/-- The value as layers keep it: integers beyond the signed words of sixty-four bits
become doubles. -/
def inLayer : Json → Json
  | .number (.int i) =>
    if Word.fitsSigned i then .number (.int i) else .number (.float (Double.ofInt i))
  | .array items => .array (inLayerItems items)
  | .object members => .object (inLayerMembers members)
  | v => v

/-- The items as layers keep them. -/
def inLayerItems : List Json → List Json
  | [] => []
  | v :: vs => inLayer v :: inLayerItems vs

/-- The members as layers keep them. -/
def inLayerMembers : List (String × Json) → List (String × Json)
  | [] => []
  | (k, v) :: ms => (k, inLayer v) :: inLayerMembers ms

end

end Json

/-- The lowest layer of settings: what is set anyway. -/
def Settings.lowestLayer : Json :=
  .object [("search", .object [("debounce_ms", .nat defaultDebounce)])]

end SmartForm
