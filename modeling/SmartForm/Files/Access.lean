/-!
# Access to files

What the program wants to know of a file system, as a record of operations: whether
there is something at a path, what a directory holds, and the text of a file. The
operations are in any monad, so the same program runs on the files of a machine and
on a tree of files in memory.
-/

namespace SmartForm

/-- Why a file cannot be read. -/
inductive FileFlaw where
  /-- There is nothing at the path. -/
  | missing
  /-- There is a directory at the path. -/
  | isDirectory
  /-- The path leads through a file. -/
  | notDirectory
  /-- The file does not hold a text. -/
  | notText
  /-- The path cannot name a file. -/
  | badPath
  /-- Anything else, in the words of the system. -/
  | other (text : String)
deriving DecidableEq, Repr

/-- The wording of a flaw. -/
def FileFlaw.message : FileFlaw → String
  | missing => "No such file or directory (os error 2)"
  | isDirectory => "Is a directory (os error 21)"
  | notDirectory => "Not a directory (os error 20)"
  | notText => "stream did not contain valid UTF-8"
  | badPath => "file name contained an unexpected NUL byte"
  | other text => text

/-- What stands at a path. -/
inductive FileKind where
  /-- A file. -/
  | file
  /-- A directory. -/
  | directory
deriving DecidableEq, Repr

/-- The operations on files. -/
structure FileAccess (m : Type → Type) where
  /-- What stands at a path, if anything does. -/
  kind? : String → m (Option FileKind)
  /-- The names in a directory; none if it cannot be read. -/
  names : String → m (List String)
  /-- The text of a file. -/
  read : String → m (Except FileFlaw String)

end SmartForm
