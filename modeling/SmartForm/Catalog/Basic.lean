import SmartForm.Schema.Field
import SmartForm.Search.Source
import SmartForm.Text.Lowercase

/-!
# Catalogs

A `SmartForm.Catalog` keeps records under the names of their endpoints, sorted by
name. It answers two questions: which records a binding loads
(`SmartForm.Catalog.load`) and which a search finds
(`SmartForm.Catalog.search`). Both keep the order of the records.

A binding compares texts as they are. A search puts both sides in lower case
first.
-/

namespace SmartForm

/-- Records under the names of their endpoints, sorted by name. -/
structure Catalog where
  /-- The endpoints with their records. -/
  entries : List (String × List Json) := []
deriving Repr, Inhabited

namespace Catalog

/-- Puts the records of an endpoint among entries sorted by name; records that are
there already are handed to `join`. -/
def insertEntry (join : List Json → List Json) (endpoint : String) :
    List (String × List Json) → List (String × List Json)
  | [] => [(endpoint, join [])]
  | (e, rs) :: rest =>
    if endpoint = e then (e, join rs) :: rest
    else if endpoint < e then (endpoint, join []) :: (e, rs) :: rest
    else (e, rs) :: insertEntry join endpoint rest

/-- The catalog with the given records at an endpoint, in place of those that are
there. -/
def insert (c : Catalog) (endpoint : String) (records : List Json) : Catalog :=
  ⟨insertEntry (fun _ => records) endpoint c.entries⟩

/-- The catalog with further records at an endpoint, behind those that are there. -/
def append (c : Catalog) (endpoint : String) (records : List Json) : Catalog :=
  ⟨insertEntry (· ++ records) endpoint c.entries⟩

/-- The catalog of some endpoints with their records. The records of an endpoint
that is named more than once stand one after the other. -/
def ofList (entries : List (String × List Json)) : Catalog :=
  entries.foldl (fun c e => c.append e.1 e.2) {}

/-- The endpoints, sorted. -/
def endpoints (c : Catalog) : List String := c.entries.map Prod.fst

/-- The records at an endpoint. -/
def records? (c : Catalog) (endpoint : String) : Option (List Json) :=
  c.entries.lookup endpoint

/-- The wording for an endpoint that is not in the catalog. -/
def unknownEndpoint (endpoint : String) : String :=
  "Unknown catalog endpoint '" ++ endpoint ++ "'"

/-! ### Loading -/

/-- Whether a member of a record has the same text as a value. A value without a
text equals nothing. -/
def memberEquals (record : Json) (name : String) (expected : Json) : Bool :=
  match (record.member? name).bind Json.scalarText?, expected.scalarText? with
  | some actual, some expected => actual == expected
  | _, _ => false

/-- The parameter of a binding that names the member compared with the value that
the records depend on. -/
def dependencyParameter : String := "dependency_field"

/-- The member compared with the value that the records depend on. -/
def dependencyMember (b : Binding) : String :=
  ((b.params.lookup dependencyParameter).bind Json.string?).getD "parent"

/-- Whether a record is wanted by a binding. -/
def isWanted (b : Binding) (dependency : Option Json) (record : Json) : Bool :=
  (b.params.all fun p => p.1 == dependencyParameter || memberEquals record p.1 p.2)
    && match dependency with
      | some value => memberEquals record (dependencyMember b) value
      | none => true

/-- The records that a binding loads, which may depend on a value. -/
def load (c : Catalog) (b : Binding) (dependency : Option Json) : Except String (List Json) :=
  match c.records? b.endpoint with
  | some records => .ok (records.filter (isWanted b dependency))
  | none => .error (unknownEndpoint b.endpoint)

/-! ### Searching -/

/-- Whether a text occurs in another one. -/
def occursIn (part : List Char) : List Char → Bool
  | [] => part.isEmpty
  | c :: cs => part.isPrefixOf (c :: cs) || occursIn part cs

/-- Whether a text fits a value, the case of letters being ignored. -/
def fits (w : Wildcard) (text value : String) : Bool :=
  let text := Text.lowerChars text.toList
  let value := Text.lowerChars value.toList
  match w with
  | .startsWith => value.isPrefixOf text
  | .endsWith => value.isSuffixOf text
  | .exact => text == value
  | .contains => occursIn value text
  | .auto => occursIn value text

/-- Whether the member of a record that a filter names fits the filter. A member
that is missing or has no text fits nothing. -/
def hits (f : Filter) (record : Json) : Bool :=
  match (record.member? f.parameter).bind Json.scalarText? with
  | some text => fits f.wildcard text f.value
  | none => false

/-- Whether a filter lets a record through. -/
def passes (f : Filter) (record : Json) : Bool :=
  if f.condition.isNegated then !hits f record else hits f record

/-- The records at an endpoint that all filters let through. -/
def search (c : Catalog) (endpoint : String) (filters : List Filter) : SearchAnswer :=
  match c.records? endpoint with
  | some records => .success (records.filter fun r => filters.all fun f => passes f r)
  | none => .failure (unknownEndpoint endpoint)

end Catalog

end SmartForm
