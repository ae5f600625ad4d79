import SmartForm.Json.Document
import SmartForm.Text.Shown

/-!
# What can be wrong with a document

A document is either malformed or does not fit the type it is read as. The cause
is a `SmartForm.Flaw`; the one place that words it is `SmartForm.Flaw.message`.
-/

namespace SmartForm

/-- Why a document could not be read as a value of the wanted type. -/
inductive Flaw where
  /-- The text has no reading at all. -/
  | malformed
  /-- A value of another kind stands where `wanted` was expected. -/
  | wrongType (found wanted : String)
  /-- A value of the right kind is out of range. -/
  | wrongValue (found wanted : String)
  /-- A list does not have as many items as `wanted` says. -/
  | wrongLength (found : Nat) (wanted : String)
  /-- A member that has no default is missing. -/
  | missingField (name : String)
  /-- A member stands twice. -/
  | duplicateField (name : String)
  /-- A word is none of the known ones. -/
  | unknownVariant (name : String) (known : List String)
  /-- A value fits none of the forms that the type admits. -/
  | noVariant (type : String)
deriving DecidableEq, Repr

namespace Flaw

/-- Words in a message: each between backticks, the last two joined by `or`, more
of them as a list. -/
def alternatives : List String → String
  | [] => "there are no variants"
  | [a] => "expected `" ++ a ++ "`"
  | [a, b] => "expected `" ++ a ++ "` or `" ++ b ++ "`"
  | names => "expected one of " ++ ", ".intercalate (names.map fun n => "`" ++ n ++ "`")

/-- The wording of a flaw. -/
def message : Flaw → String
  | malformed => "malformed JSON"
  | wrongType found wanted => "invalid type: " ++ found ++ ", expected " ++ wanted
  | wrongValue found wanted => "invalid value: " ++ found ++ ", expected " ++ wanted
  | wrongLength found wanted => "invalid length " ++ toString found ++ ", expected " ++ wanted
  | missingField name => "missing field `" ++ name ++ "`"
  | duplicateField name => "duplicate field `" ++ name ++ "`"
  | unknownVariant name known => "unknown variant `" ++ name ++ "`, " ++ alternatives known
  | noVariant type => "data did not match any variant of untagged enum " ++ type

end Flaw

namespace Document

/-- What a message calls the value at the top of a document. -/
def kindText : Document → String
  | .null => "null"
  | .bool b => "boolean `" ++ (if b then "true" else "false") ++ "`"
  | .number (.int i) => "integer `" ++ toString i ++ "`"
  | .number (.float d) => "floating point `" ++ d.text .echo ++ "`"
  | .string s => "string " ++ Text.shown s
  | .bare s => "string " ++ Text.shown s
  | .array _ _ => "sequence"
  | .object _ _ => "map"
  | .unreadable => "number"
  | .broken => "nothing"

/-- The flaw of a document that is not what was wanted: a leaf without a value is
malformed before it is of the wrong type. -/
def mismatch (wanted : String) : Document → Flaw
  | .broken => .malformed
  | .unreadable => .malformed
  | d => .wrongType d.kindText wanted

end Document

end SmartForm
