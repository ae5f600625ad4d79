import SmartForm.Search.Source

/-!
# Queries

A query is a text of words. A word `CODE:value` addresses the field with that
code; a word without a colon, or with a colon in front, goes to the first field as
it is. An exclamation mark before the value asks for the records that do not
match, where the field allows it, and `!CODE:value` means `CODE:!value`.

`SmartForm.Query.parse` turns each word into at most one filter: a word with an
unknown code, and a word that leaves no value, is dropped.
-/

namespace SmartForm

namespace Query

/-- A word of a query: the code in it, if it has one, and the value with the mark
of negation that may stand before it. -/
structure Address where
  /-- The code before the first colon. -/
  code : Option (List Char)
  /-- What is looked for. -/
  value : List Char
deriving DecidableEq, Repr

/-- What a word addresses. A colon in front separates nothing, and a mark before
the code moves to the value. -/
def Address.ofToken (token : List Char) : Address :=
  let code := token.takeWhile (· ≠ ':')
  match token.dropWhile (· ≠ ':') with
  | [] => ⟨none, token⟩
  | _ :: rest =>
    match code with
    | [] => ⟨none, token⟩
    | '!' :: code => ⟨some code, '!' :: rest⟩
    | code => ⟨some code, rest⟩

/-- The filter for a value of a field. Blanks at the ends of the value do not count. The
mark of negation belongs to the value where the field does not allow it. -/
def filter? (field : SearchField) (value : List Char) : Option Filter :=
  let value := Text.trimChars value
  let (condition, value) := match value with
    | '!' :: rest =>
      if field.allowNot then (Condition.not, Text.trimChars rest) else (.and, value)
    | _ => (.and, value)
  if value.isEmpty then none
  else some ⟨field.parameter, field.code, condition, field.wildcard.getD .contains,
    String.ofList value⟩

/-- The field that a word addresses. -/
def field? (source : SearchSource) (a : Address) : Option SearchField :=
  match a.code with
  | none => source.fields.head?
  | some code => source.fieldByCode? (String.ofList code)

/-- The filter of one word. -/
def parseToken (source : SearchSource) (token : List Char) : Option Filter :=
  let a := Address.ofToken token
  (field? source a).bind fun f => filter? f a.value

/-- The filters of a query, in the order of its words. -/
def parse (query : String) (source : SearchSource) : List Filter :=
  let query := Text.trim query
  if query.isEmpty then []
  else (Text.wordChars query.toList).filterMap (parseToken source)

end Query

/-- The filters of a search: those of the source and those of the query. -/
def SearchSource.filters (s : SearchSource) (query : String) : List Filter :=
  s.baseFilters ++ Query.parse query s

end SmartForm
