import SmartForm.Decoding.Record
import SmartForm.Json.Reader
import SmartForm.Text.Blank

/-!
# Assignments

On the command line a value is assigned to a field as `key=value`. The key ends at
the first equality sign and stands without the blanks around it. The value is a
JSON text if it can be read as one, and otherwise the text itself.
-/

namespace SmartForm

/-- A value for a field. -/
structure Assignment where
  /-- The key of the field. -/
  key : String
  /-- The value. -/
  value : Json
deriving Repr

/-- Why a text is no assignment. -/
inductive AssignmentFlaw where
  /-- There is no equality sign. -/
  | noSign (raw : String)
  /-- There is nothing in front of the equality sign. -/
  | noKey (raw : String)
deriving DecidableEq, Repr

/-- The wording of a flaw. -/
def AssignmentFlaw.message : AssignmentFlaw → String
  | noSign raw => "expected key=value, got '" ++ raw ++ "'"
  | noKey raw => "missing field key in '" ++ raw ++ "'"

namespace Assignment

/-- The value that a text stands for. -/
def valueOf (text : String) : Json :=
  let (d, atEnd) := Json.readDocument text
  match Reader.json.text d atEnd with
  | .ok v => v
  | .error _ => .string text

/-- The assignment that a text writes. -/
def parse (raw : String) : Except AssignmentFlaw Assignment :=
  let cs := raw.toList
  match cs.dropWhile (· ≠ '=') with
  | [] => .error (.noSign raw)
  | _ :: rest =>
    let key := Text.trim (String.ofList (cs.takeWhile (· ≠ '=')))
    if key.isEmpty then .error (.noKey raw)
    else .ok ⟨key, valueOf (String.ofList rest)⟩

end Assignment

end SmartForm
