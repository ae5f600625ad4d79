import SmartForm.Files.Access
import SmartForm.Files.Path

/-!
# Patterns of paths

A `SmartForm.PathPattern` describes names of files: a question mark stands for any
character, a star for any characters, and brackets for one of the characters that
they list. A part of two stars stands for any number of directories. Case and a dot
at the beginning make no difference.

`SmartForm.PathPattern.expand` finds the paths that a pattern of several parts
describes, in the order of the bytes of their names, directory by directory. Parts
without any special character are not compared but looked up.
-/

namespace SmartForm

/-- One piece of a pattern. -/
inductive PatternToken where
  /-- The character itself. -/
  | char (c : Char)
  /-- Any character. -/
  | any
  /-- Any characters. -/
  | anything
  /-- Any number of directories. -/
  | directories
  /-- A character in one of some ranges, or in none of them. -/
  | oneOf (inside : Bool) (ranges : List (Char × Char))
deriving DecidableEq, Repr

/-- A pattern of a name. -/
abbrev PathPattern := List PatternToken

namespace PathPattern

/-! ### Reading a pattern -/

/-- The ranges that the inside of brackets lists. -/
def ranges : List Char → List (Char × Char)
  | a :: '-' :: b :: rest => (a, b) :: ranges rest
  | c :: rest => (c, c) :: ranges rest
  | [] => []

/-- The inside of brackets behind the opening one, and what follows the closing one.
The first character is never the closing one. -/
def brackets? : List Char → Option (PatternToken × List Char)
  | '!' :: c :: rest => close false c rest
  | '!' :: [] => none
  | c :: rest => close true c rest
  | [] => none
where
  /-- Looks for the closing bracket behind the first character. -/
  close (inside : Bool) (first : Char) (rest : List Char) :
      Option (PatternToken × List Char) :=
    let listed := rest.takeWhile (· ≠ ']')
    match rest.drop listed.length with
    | [] => none
    | _ :: after => some (.oneOf inside (ranges (first :: listed)), after)

/-- The pieces of a pattern from the given characters on; `boundary` tells whether a
part starts here. -/
def tokens? : Nat → Bool → List Char → Option PathPattern
  | 0, _, _ => none
  | _ + 1, _, [] => some []
  | fuel + 1, boundary, c :: rest =>
    if c = '?' then (tokens? fuel false rest).map (.any :: ·)
    else if c = '*' then
      let stars := (rest.takeWhile (· = '*')).length
      let rest := rest.drop stars
      if stars = 0 then (tokens? fuel false rest).map (.anything :: ·)
      else if stars = 1 && boundary then
        match rest with
        | [] => some [.directories]
        | '/' :: rest => (tokens? fuel true rest).map (.directories :: ·)
        | _ => none
      else none
    else if c = '[' then
      match brackets? rest with
      | none => none
      | some (t, rest) => (tokens? fuel false rest).map (t :: ·)
    else (tokens? fuel (c = '/') rest).map (.char c :: ·)

/-- The pattern that a text writes. -/
def parse? (cs : List Char) : Option PathPattern := tokens? (cs.length + 1) true cs

/-! ### Comparing -/

/-- Whether a name fits a pattern. -/
def fits : PathPattern → List Char → Bool
  | [], cs => cs.isEmpty
  | .anything :: ts, cs => fitsTail ts cs
  | .directories :: ts, cs => fitsTail ts cs
  | .any :: ts, cs =>
    match cs with
    | _ :: rest => fits ts rest
    | [] => false
  | .char c :: ts, cs =>
    match cs with
    | d :: rest => c = d && fits ts rest
    | [] => false
  | .oneOf inside ranges :: ts, cs =>
    match cs with
    | d :: rest => (ranges.any fun r => r.1 ≤ d && d ≤ r.2) == inside && fits ts rest
    | [] => false
where
  /-- Whether the end of a name fits a pattern, from any place on. -/
  fitsTail (ts : PathPattern) : List Char → Bool
    | [] => fits ts []
    | c :: cs => fits ts (c :: cs) || fitsTail ts cs

/-- The text that is the only one to fit, if the pattern has no special character. -/
def literal? (p : PathPattern) : Option (List Char) :=
  p.mapM fun t => match t with
    | .char c => some c
    | _ => none

/-- Whether the pattern stands for any number of directories. -/
def isDirectories (p : PathPattern) : Bool := p.contains .directories

/-! ### Finding paths -/

section Expand

variable {m : Type → Type} [Monad m]

/-- Names in the order of their characters. -/
def sortNames (names : List String) : List String := names.mergeSort fun a b => a ≤ b

/-- A name inside a directory. The present directory is not named. -/
def inside (directory name : String) : String :=
  if directory = "." then name else Path.append directory name

mutual

/-- The paths below a directory that some parts describe. -/
def fill (files : FileAccess m) : Nat → List PathPattern → String → m (List String)
  | 0, _, _ => pure []
  | _ + 1, [], _ => pure []
  | fuel + 1, p :: rest, directory => do
    let isDirectory := (← files.kind? directory) == some .directory
    match literal? p with
    | some name =>
      let path := if name.isEmpty then directory ++ "/" else inside directory (String.ofList name)
      let isThere : Bool ←
        if name = ['.'] ∨ name = ['.', '.'] then pure isDirectory
        else pure (← files.kind? path).isSome
      if !isThere then pure []
      else if rest.isEmpty then pure [path]
      else fill files fuel rest path
    | none =>
      if !isDirectory then pure []
      else
        let specials : List String :=
          if p.head? = some (.char '.') then
            ["..", "."].filter fun s => fits p s.toList
          else []
        let above ← specials.mapM fun s =>
          if rest.isEmpty then pure [Path.append directory s]
          else fill files fuel rest (Path.append directory s)
        let below ← (sortNames (← files.names directory)).mapM fun name =>
          visit files fuel p rest directory name
        pure (above.flatten ++ below.flatten)

/-- The paths at or below an entry of a directory that some parts describe. -/
def visit (files : FileAccess m) :
    Nat → PathPattern → List PathPattern → String → String → m (List String)
  | 0, _, _, _, _ => pure []
  | fuel + 1, p, rest, directory, name => do
    let path := inside directory name
    if p.isDirectories then
      let rest := rest.dropWhile isDirectories
      let isDirectory := (← files.kind? path) == some .directory
      let deeper ← if isDirectory then fill files fuel (p :: rest) path else pure []
      match rest with
      | [] => pure (if isDirectory then path :: deeper else [])
      | q :: rest =>
        let here ← compare files fuel q rest path name
        pure (here ++ deeper)
    else compare files fuel p rest path name

/-- The paths at or below an entry whose name has to fit the first part. -/
def compare (files : FileAccess m) :
    Nat → PathPattern → List PathPattern → String → String → m (List String)
  | 0, _, _, _, _ => pure []
  | fuel + 1, p, rest, path, name =>
    if !fits p name.toList then pure []
    else if rest.isEmpty then pure [path]
    else fill files fuel rest path

end

/-- More steps than there are directories inside each other. -/
def mostSteps : Nat := 3 * 4096

/-- The directory in which the search starts, and the parts that are looked for in
it. -/
def scope (pattern : List Char) : String × List (List Char) :=
  let (directory, rest) := match pattern with
    | '/' :: rest => ("/", rest)
    | _ => (".", pattern)
  let pieces := Path.split '/' rest
  (directory, if pieces.getLast? = some [] then pieces.dropLast else pieces)

/-- The paths that a pattern describes, in their order; nothing if it is no pattern. -/
def expand (files : FileAccess m) (pattern : String) : m (Option (List String)) := do
  let cs := pattern.toList
  match parse? cs with
  | none => pure none
  | some _ =>
    let (directory, pieces) := scope cs
    match pieces.mapM parse? with
    | none => pure none
    | some parts => return some (← fill files (parts.length + mostSteps) parts directory)

end Expand

end PathPattern

end SmartForm
