import SmartForm.Calendar.Reader
import SmartForm.Json.Value

/-!
# Bounds

A bound is a number or a date. It is declared as a number, as a text that writes a
finite number, or as a text that writes a date; anything else declares none
(`SmartForm.Bound.ofJson?`).

A value is compared with a bound of its own sort only
(`SmartForm.Bound.compare?`). Numbers are compared as doubles, so integers beyond
`2 ^ 53` may be equal to their neighbours.
-/

namespace SmartForm

/-- A bound of values. -/
inductive Bound where
  /-- A finite number. -/
  | number (d : Double)
  /-- A date. -/
  | date (d : Date)
deriving DecidableEq, Repr

namespace Bound

/-- The bound that a value declares. -/
def ofJson? : Json → Option Bound
  | .number n => if n.toDouble.isFinite then some (.number n.toDouble) else none
  | .string s =>
    let t := Text.trim s
    match (Double.parse? t).filter Double.isFinite with
    | some d => some (.number d)
    | none => (Date.parse? t).map .date
  | _ => none

/-- How a value stands to the bound; nothing if the two cannot be compared. -/
def compare? (b : Bound) (v : Json) : Option Ordering :=
  match b, v with
  | .number b, .number n => n.toDouble.compare b
  | .number b, .string s => (Double.parse? (Text.trim s)).bind fun d => d.compare b
  | .date b, .string s => (Date.parse? (Text.trim s)).map fun d => d.compare b
  | _, _ => none

/-- The bound as messages write it. -/
def text : Bound → String
  | .number d => d.text .plain
  | .date d => d.text

end Bound

end SmartForm
