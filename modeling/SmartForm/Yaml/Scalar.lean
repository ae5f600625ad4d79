import SmartForm.Json.Value
import SmartForm.Number.Reader

/-!
# Texts without quotes

What a text without quotes means in a YAML document: nothing, a truth value, a
number, or the text itself. A whole number may be written to the base two, eight
or sixteen as well, and a row of digits with a zero in front is a text.
-/

namespace SmartForm

namespace Yaml

/-- The texts that stand for nothing. -/
def isNull (s : String) : Bool :=
  s.isEmpty || s = "~" || s = "null" || s = "Null" || s = "NULL"

/-- The truth value that a text stands for. -/
def bool? (s : String) : Option Bool :=
  if s = "true" ∨ s = "True" ∨ s = "TRUE" then some true
  else if s = "false" ∨ s = "False" ∨ s = "FALSE" then some false
  else none

/-- Whether the digits start with a zero that does not belong there. -/
def hasLeadingZero (cs : List Char) : Bool :=
  match cs with
  | '0' :: c :: rest => (c :: rest).all Char.isDigit
  | _ => false

/-- A whole number without its sign. -/
def magnitude? (cs : List Char) : Option Nat :=
  match cs with
  | '0' :: 'x' :: rest => Digits.value? 16 rest
  | '0' :: 'o' :: rest => Digits.value? 8 rest
  | '0' :: 'b' :: rest => Digits.value? 2 rest
  | _ => if hasLeadingZero cs then none else Digits.value? 10 cs

/-- The whole number that a text writes. -/
def int? (s : String) : Option Int :=
  match s.toList with
  | '+' :: rest => (magnitude? rest).map Int.ofNat
  | '-' :: rest => (magnitude? rest).map fun n => -(n : Int)
  | cs => (magnitude? cs).map Int.ofNat

/-- The number with a fraction or an exponent that a text writes. -/
def float? (s : String) : Option Double :=
  let unsigned := match s.toList with
    | '+' :: '+' :: _ => none
    | '+' :: '-' :: _ => none
    | '+' :: rest => some (String.ofList rest)
    | cs => some (String.ofList cs)
  match unsigned with
  | none => none
  | some t =>
    if t = ".inf" ∨ t = ".Inf" ∨ t = ".INF" then some (.infinite false)
    else if s = "-.inf" ∨ s = "-.Inf" ∨ s = "-.INF" then some (.infinite true)
    else if s = ".nan" ∨ s = ".NaN" ∨ s = ".NAN" then some .nan
    else match Double.parse? t with
      | some d => if d.isFinite then some d else none
      | none => none

/-- Whether the sign is followed by digits that start with a zero. -/
def isZeroPadded (s : String) : Bool :=
  match s.toList with
  | '+' :: rest => hasLeadingZero rest
  | '-' :: rest => hasLeadingZero rest
  | cs => hasLeadingZero cs

/-- The value that a text without quotes stands for. A number that is not finite
has no value. -/
def resolve (s : String) : Json :=
  if isNull s then .null
  else match bool? s with
    | some b => .bool b
    | none =>
      match int? s with
      | some i =>
        if Word.fitsEither i then .int i
        else .number (.float (Double.ofInt i))
      | none =>
        if isZeroPadded s then .string s
        else match float? s with
          | some d => if d.isFinite then .number (.float d) else .null
          | none => .string s

end Yaml

end SmartForm
