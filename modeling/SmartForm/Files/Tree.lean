import SmartForm.Files.Access
import SmartForm.Files.Path

/-!
# Trees of files

A `SmartForm.FileTree` is a file system in memory. Paths start at its top, and no
path leads out of it.
-/

namespace SmartForm

/-- A file or a directory. -/
inductive FileTree where
  /-- A file; it may hold something else than a text. -/
  | file (content : Option String)
  /-- A directory with what it holds. -/
  | directory (entries : List (String × FileTree))
deriving Repr, Inhabited

namespace FileTree

/-- What a tree holds under a name; a file holds nothing. -/
def entries : FileTree → List (String × FileTree)
  | file _ => []
  | directory es => es

/-- Puts a tree into a directory, along a path of names. Directories that are missing
are made. -/
def insert (content : FileTree) : List String → FileTree → FileTree
  | [], _ => content
  | name :: path, t =>
    let inner := insert content path ((t.entries.lookup name).getD (directory []))
    directory ((name, inner) :: t.entries.filter fun e => e.1 ≠ name)

/-- Goes along the pieces of a path. The trees above the present one are in `above`,
the nearest first. -/
def walk (above : List FileTree) (t : FileTree) :
    List (List Char) → Except FileFlaw FileTree
  | [] => .ok t
  | p :: rest =>
    match t with
    | file _ => .error .notDirectory
    | directory es =>
      if p = ['.'] then walk above t rest
      else if p = ['.', '.'] then
        match above with
        | [] => .error .missing
        | u :: us => walk us u rest
      else match es.lookup (String.ofList p) with
        | none => .error .missing
        | some inner => walk (t :: above) inner rest

/-- What stands at a path. A slash at the end wants a directory. -/
def find (t : FileTree) (path : String) : Except FileFlaw FileTree :=
  let cs := path.toList
  if cs.contains '\x00' then .error .badPath
  else if cs.isEmpty || Path.isAbsolute cs then .error .missing
  else
    let pieces := (Path.split '/' cs).filter fun p => !p.isEmpty
    t.walk [] (if cs.getLast? = some '/' then pieces ++ [['.']] else pieces)

/-- The operations on the files of a tree. -/
def access (t : FileTree) : FileAccess Id where
  kind? := fun path =>
    match t.find path with
    | .ok (file _) => some .file
    | .ok (directory _) => some .directory
    | .error _ => none
  names := fun path =>
    match t.find path with
    | .ok x => x.entries.map Prod.fst
    | .error _ => []
  read := fun path =>
    match t.find path with
    | .ok (file (some text)) => .ok text
    | .ok (file none) => .error .notText
    | .ok (directory _) => .error .isDirectory
    | .error flaw => .error flaw

end FileTree

end SmartForm
