import SmartForm.Json.Value
import SmartForm.Text.Blank

/-!
# Search sources and filters

A `SmartForm.SearchSource` says what can be searched: the endpoint that holds the
records and the fields that a query may address, each by a code. A
`SmartForm.Filter` is one condition on the records. It is what a word of a query
becomes, and `SmartForm.Filter.token` is the word that it becomes again.

A `SmartForm.SearchAnswer` is what a collaborator answers to a search.
-/

namespace SmartForm

/-! ### Filters -/

/-- How the text of a record is compared with the value of a filter. -/
inductive Wildcard where
  /-- The value occurs in the text. -/
  | contains
  /-- The text starts with the value. -/
  | startsWith
  /-- The text ends with the value. -/
  | endsWith
  /-- The text is the value. -/
  | exact
  /-- The collaborator decides. -/
  | auto
deriving DecidableEq, Repr, Inhabited

namespace Wildcard

/-- The comparisons with the words that documents use for them. -/
def words : List (String × Wildcard) :=
  [("CONTAINS", .contains), ("STARTS_WITH", .startsWith), ("ENDS_WITH", .endsWith),
   ("EXACT", .exact), ("AUTO", .auto)]

/-- The word of a comparison. -/
def word : Wildcard → String
  | .contains => "CONTAINS"
  | .startsWith => "STARTS_WITH"
  | .endsWith => "ENDS_WITH"
  | .exact => "EXACT"
  | .auto => "AUTO"

end Wildcard

/-- Whether a filter wants the records that match or the others. -/
inductive Condition where
  /-- The records that match. -/
  | and
  /-- The records that do not match. -/
  | not
  /-- The records that do not match. -/
  | andNot
deriving DecidableEq, Repr, Inhabited

namespace Condition

/-- The conditions with the words that documents use for them. -/
def words : List (String × Condition) := [("AND", .and), ("NOT", .not), ("AND_NOT", .andNot)]

/-- The word of a condition. -/
def word : Condition → String
  | .and => "AND"
  | .not => "NOT"
  | .andNot => "AND_NOT"

/-- Whether the records that match are left out. -/
def isNegated : Condition → Bool
  | .and => false
  | .not => true
  | .andNot => true

end Condition

/-- One condition on the records of a source. -/
structure Filter where
  /-- The member of a record that is compared. -/
  parameter : String
  /-- The code that the query used for it. -/
  code : String
  /-- Which records are wanted. -/
  condition : Condition
  /-- How the texts are compared. -/
  wildcard : Wildcard
  /-- What they are compared with. -/
  value : String
deriving DecidableEq, Repr, Inhabited

/-- The word of a query that stands for the filter. -/
def Filter.token (f : Filter) : String :=
  (if f.condition.isNegated then "!" else "") ++ f.code ++ ":" ++ f.value

/-! ### Sources -/

/-- A field that a query may address. -/
structure SearchField where
  /-- The code of the field in a query. -/
  code : String
  /-- What is shown for the field. -/
  label : String := ""
  /-- The member of a record that is compared. -/
  parameter : String
  /-- How the texts are compared, if not by containment. -/
  wildcard : Option Wildcard := none
  /-- Whether a query may ask for the records that do not match. -/
  allowNot : Bool := false
deriving DecidableEq, Repr, Inhabited

/-- A column of a table of results. -/
structure TableColumn where
  /-- The member of a record that the column shows. -/
  key : String
  /-- The heading of the column. -/
  header : String := ""
deriving DecidableEq, Repr, Inhabited

/-- What can be searched. -/
structure SearchSource where
  /-- The name of the source. -/
  key : String
  /-- The name of the records. -/
  endpoint : String
  /-- The fields that a query may address; a word without a code goes to the first. -/
  fields : List SearchField := []
  /-- The columns of the table of results. -/
  columns : List TableColumn := []
  /-- Switches that are passed through, sorted by name. -/
  flags : List (String × Json) := []
  /-- Filters in front of those of every query. -/
  baseFilters : List Filter := []
deriving Repr, Inhabited

/-- The first field whose code is the given one, the case of seven-bit letters
being ignored. -/
def SearchSource.fieldByCode? (s : SearchSource) (code : String) : Option SearchField :=
  s.fields.find? fun f => Text.equalIgnoringCase f.code code

/-! ### Answers -/

/-- What a collaborator answers to a search. -/
structure SearchAnswer where
  /-- Whether the search was carried out. -/
  isSuccess : Bool
  /-- The records that were found. -/
  items : List Json := []
  /-- Why the search was not carried out. -/
  message : Option String := none
deriving Repr, Inhabited

namespace SearchAnswer

/-- The answer with the given records. -/
def success (items : List Json) : SearchAnswer := ⟨true, items, none⟩

/-- The answer that refuses a search. -/
def failure (message : String) : SearchAnswer := ⟨false, [], some message⟩

end SearchAnswer

end SmartForm
