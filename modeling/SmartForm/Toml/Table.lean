import SmartForm.Json.Value

/-!
# Tables of a TOML document

A TOML document says in many places what its tables hold: under the heading of a
table, under a heading that repeats, and by names with dots. A `SmartForm.Toml.Table`
grows with each of these, and every operation fails where something would be said
twice:

* a value is never given twice and never extended;
* a table gets one heading at most (`SmartForm.Toml.Table.enter`), but may be
  implied by the headings of tables in it before that;
* a heading that repeats adds a table to a list (`SmartForm.Toml.Table.enterNext`),
  and what is said of the list afterwards is said of its last table.
-/

namespace SmartForm

namespace Toml

/-- How a table came into being. -/
inductive Origin where
  /-- By the heading of a table in it. -/
  | implied
  /-- By a heading of its own. -/
  | heading
  /-- By a name with dots. -/
  | dotted
deriving DecidableEq, Repr

/-- What stands under a name. -/
inductive Node where
  /-- A value that is complete. -/
  | value (v : Json)
  /-- A table, which may grow. -/
  | table (origin : Origin) (members : List (String × Node))
  /-- The tables of a heading that repeats, the last one first. -/
  | tables (items : List (List (String × Node)))
deriving Repr, Inhabited

/-- Names with what stands under them. -/
abbrev Table := List (String × Node)

namespace Table

/-- Puts a node under a name, in place of what stands there. -/
def put (name : String) (node : Node) (t : Table) : Table :=
  if (t.lookup name).isSome then t.map fun (k, x) => if k = name then (k, node) else (k, x)
  else t ++ [(name, node)]

/-- Walks along names to a table and changes it there. Tables that are missing are
made with the given origin; only with origin `dotted` the walk keeps out of tables
with a heading. -/
def change (origin : Origin) (f : Table → Option Table) : List String → Table → Option Table
  | [], t => f t
  | name :: path, t =>
    match t.lookup name with
    | none => (change origin f path []).map fun inner => put name (.table origin inner) t
    | some (.table o inner) =>
      if origin = .dotted ∧ o = .heading then none
      else (change origin f path inner).map fun inner => put name (.table o inner) t
    | some (.tables (last :: before)) =>
      if origin = .dotted then none
      else (change origin f path last).map fun last => put name (.tables (last :: before)) t
    | some _ => none

/-- Gives a value to a name. -/
def give (name : String) (v : Json) (t : Table) : Option Table :=
  if (t.lookup name).isSome then none else some (put name (.value v) t)

/-- Starts a table with a heading. -/
def enter (name : String) (t : Table) : Option Table :=
  match t.lookup name with
  | none => some (put name (.table .heading []) t)
  | some (.table .implied inner) => some (put name (.table .heading inner) t)
  | some _ => none

/-- Starts the next table of a heading that repeats. -/
def enterNext (name : String) (t : Table) : Option Table :=
  match t.lookup name with
  | none => some (put name (.tables [[]]) t)
  | some (.tables items) => some (put name (.tables ([] :: items)) t)
  | some _ => none

mutual

/-- What stands under a name as a value. -/
def nodeJson : Node → Json
  | .value v => v
  | .table _ members => .object (Json.sortMembers (membersJson members))
  | .tables items => .array (itemsJson items).reverse

/-- Names with what stands under them as members. -/
def membersJson : List (String × Node) → List (String × Json)
  | [] => []
  | (k, x) :: rest => (k, nodeJson x) :: membersJson rest

/-- Tables as values. -/
def itemsJson : List (List (String × Node)) → List Json
  | [] => []
  | t :: rest => .object (Json.sortMembers (membersJson t)) :: itemsJson rest

end

/-- The table as a value. -/
def toJson (t : Table) : Json := .object (Json.sortMembers (membersJson t))

end Table

end Toml

end SmartForm
