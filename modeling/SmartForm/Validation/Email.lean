import SmartForm.Pattern.Parser

/-!
# Email addresses

An email address is a local part, an at sign and a domain. The shape of all three
is one pattern (`SmartForm.Email.pattern`), in which the domain is a row of labels
with points between them; the lengths of the whole and of the local part are
limited besides. Lengths count bytes.
-/

namespace SmartForm

namespace Email

/-- The greatest length of an address. -/
def maxLength : Nat := 254

/-- The greatest length of a local part. -/
def localMaxLength : Nat := 64

/-- The shape of an address. A label of its domain has up to sixty-three letters, digits
and hyphens, no hyphen at either end. -/
def pattern : String :=
  "^[a-zA-Z0-9.!#$%&'*+/=?^_`\x7b|\x7d~-]+@" ++
    "[a-zA-Z0-9](?:[a-zA-Z0-9-]\x7b0,61\x7d[a-zA-Z0-9])?" ++
    "(?:\\.[a-zA-Z0-9](?:[a-zA-Z0-9-]\x7b0,61\x7d[a-zA-Z0-9])?)*$"

/-- The expression of the shape. -/
def shape? : Option Regex := Regex.parse? pattern

/-- Whether a text is an email address. -/
def isEmail (s : String) : Bool :=
  if maxLength < s.utf8ByteSize then false
  else
    let cs := s.toList
    let name := cs.takeWhile (· ≠ '@')
    cs.contains '@' && (String.ofList name).utf8ByteSize ≤ localMaxLength &&
      shape?.any fun r => r.isMatch s

end Email

end SmartForm
