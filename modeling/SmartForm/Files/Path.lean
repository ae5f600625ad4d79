/-!
# Paths

Parts of a path are separated by slashes. Where a path is taken apart, empty parts
and parts of a single dot say nothing, except for a dot at the very beginning.
-/

namespace SmartForm

namespace Path

/-- The pieces between separators; at least one. -/
def split (sep : Char) : List Char → List (List Char)
  | [] => [[]]
  | c :: cs =>
    if c = sep then [] :: split sep cs
    else match split sep cs with
      | [] => [[c]]
      | p :: ps => (c :: p) :: ps

/-- Pieces with slashes between them. -/
def join : List (List Char) → List Char
  | [] => []
  | [p] => p
  | p :: ps => p ++ '/' :: join ps

/-- Whether a path starts at the root. -/
def isAbsolute (path : List Char) : Bool := path.head? = some '/'

/-- The parts of a path. -/
def parts (path : List Char) : List (List Char) :=
  match split '/' path with
  | ['.'] :: rest => ['.'] :: rest.filter fun p => !p.isEmpty && p ≠ ['.']
  | pieces => pieces.filter fun p => !p.isEmpty && p ≠ ['.']

/-- A path with one more part. -/
def append (path part : String) : String :=
  if path.isEmpty then part
  else if path.toList.getLast? = some '/' then path ++ part
  else path ++ "/" ++ part

/-- The last part of a path, unless it goes upwards. -/
def fileName? (path : String) : Option (List Char) :=
  (parts path.toList).getLast?.filter fun p => p ≠ ['.', '.']

/-- What follows the last dot of the last part. A dot at the beginning of a name does
not count. -/
def extension? (path : String) : Option String :=
  (fileName? path).bind fun name =>
    let after := name.reverse.takeWhile (· ≠ '.')
    if name.length ≤ after.length + 1 then none else some (String.ofList after.reverse)

/-- Pieces without those at the end that say nothing. -/
def trimPieces (pieces : List (List Char)) : List (List Char) :=
  (pieces.reverse.dropWhile fun p => p.isEmpty || p = ['.']).reverse

/-- The path without its last part; empty if there is nothing in front of it. -/
def parent (path : String) : String :=
  match split '/' path.toList with
  | [] => ""
  | first :: rest =>
    let rest := trimPieces rest
    match rest.isEmpty, trimPieces rest.dropLast with
    | true, _ => ""
    | false, [] => if first.isEmpty then "/" else String.ofList first
    | false, above => String.ofList (join (first :: above))

/-- The path with a dot and an ending behind its last part, if that is a name. -/
def withEnding? (path ending : String) : Option String :=
  match split '/' path.toList with
  | [] => none
  | first :: rest =>
    let pieces := first :: trimPieces rest
    if pieces.getLast? = some ['.'] ∨ pieces.getLast? = some ['.', '.'] ∨ pieces = [[]] then none
    else some (String.ofList (join pieces) ++ "." ++ ending)

end Path

end SmartForm
