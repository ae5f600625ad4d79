import SmartForm.CommandLine.Help
import SmartForm.CommandLine.Report
import SmartForm.Json.Printer

/-!
# The program

The command line on the files of the machine. The report goes to the standard output;
what is said instead of it goes to the standard error, unless it was asked for.
-/

namespace SmartForm

namespace Machine

/-- The flaw that an error of the system means for a path that is no directory. -/
def flawOf : IO.Error → FileFlaw
  | .noFileOrDirectory .. => .missing
  | .inappropriateType .. => .notDirectory
  | e => .other (toString e)

/-- What stands at a path. -/
def kind? (path : String) : IO (Option FileKind) := do
  try
    let found ← (← IO.FS.realPath path).metadata
    return some (if found.type matches .dir then .directory else .file)
  catch _ => return none

/-- The names in a directory. -/
def names (path : String) : IO (List String) := do
  try
    let entries ← (← IO.FS.realPath path).readDir
    return entries.toList.map fun e => e.fileName
  catch _ => return []

/-- The text of a file. -/
def read (path : String) : IO (Except FileFlaw String) := do
  if path.contains '\x00' then return .error .badPath
  if (← kind? path) == some .directory then return .error .isDirectory
  try
    match String.fromUTF8? (← IO.FS.readBinFile path) with
    | some text => return .ok text
    | none => return .error .notText
  catch e => return .error (flawOf e)

/-- The files of the machine. -/
def files : FileAccess IO := ⟨kind?, names, read⟩

end Machine

end SmartForm

open SmartForm in
/-- Carries a command line out. -/
def main (words : List String) : IO UInt32 := do
  match ← report Machine.files words with
  | .ok v =>
    IO.println v.pretty
    return 0
  | .error (.usage flaw) =>
    let (text, wanted) := Invocation.answerTo flaw
    if wanted then
      IO.println text
      return 0
    else
      IO.eprintln text
      return 2
  | .error flaw =>
    IO.eprintln ("Error: " ++ flaw.message)
    return 1
