import SmartForm.Pattern.Parser
import SmartForm.Schema.Field
import SmartForm.Validation.Bound
import SmartForm.Validation.Email

/-!
# Validators

The rules of a field become a chain of validators (`SmartForm.Validator.ofField`),
always in the same order. Rules that cannot be kept – a pattern that is no regular
expression, a bound that is neither a number nor a date – are left out.

A value that is not filled in is a matter of one validator alone: the one that
requires it. All others let it pass.
-/

namespace SmartForm

/-! ### Violations -/

/-- What a value does wrong. -/
inductive Violation where
  /-- The value is not filled in. -/
  | required
  /-- The value is no email address. -/
  | email
  /-- The value is too short. -/
  | minLength (least actual : Nat)
  /-- The value is too long. -/
  | maxLength (most actual : Nat)
  /-- The value is not of the wanted form. -/
  | pattern (pattern : String)
  /-- The value lies below its bound. -/
  | min (bound : String)
  /-- The value lies above its bound. -/
  | max (bound : String)
deriving DecidableEq, Repr

namespace Violation

/-- The name of the rule that is broken. -/
def kind : Violation → String
  | required => "Required"
  | email => "Email"
  | minLength _ _ => "MinLength"
  | maxLength _ _ => "MaxLength"
  | pattern _ => "Pattern"
  | min _ => "Min"
  | max _ => "Max"

/-- The wording of a violation. -/
def message : Violation → String
  | required => "Value is required"
  | email => "Not a valid email address"
  | minLength least actual =>
    "Must be at least " ++ toString least ++ " characters (got " ++ toString actual ++ ")"
  | maxLength most actual =>
    "Must be at most " ++ toString most ++ " characters (got " ++ toString actual ++ ")"
  | pattern p => "Does not match pattern " ++ p
  | min bound => "Must be at least " ++ bound
  | max bound => "Must be at most " ++ bound

end Violation

/-! ### Validators -/

/-- One rule that values have to keep. -/
inductive Validator where
  /-- The value is filled in. -/
  | required
  /-- The value is an email address. -/
  | email
  /-- The value is not too short. -/
  | minLength (least : Nat)
  /-- The value is not too long. -/
  | maxLength (most : Nat)
  /-- The text of the value matches an expression, which is kept with its source. -/
  | pattern (source : String) (regex : Regex)
  /-- The value does not lie below a bound. -/
  | min (bound : Bound)
  /-- The value does not lie above a bound. -/
  | max (bound : Bound)
deriving Repr

namespace Validator

/-- The length of a value: the characters of a text, the items of a list. -/
def length? : Json → Option Nat
  | .string s => some s.length
  | .array items => some items.length
  | _ => none

/-- What a filled-in value does wrong under a validator. -/
def checkFilled (validator : Validator) (v : Json) : Option Violation :=
  match validator with
  | required => none
  | email => if (v.string?).any Email.isEmail then none else some .email
  | minLength least =>
    match length? v with
    | some actual => if actual < least then some (.minLength least actual) else none
    | none => none
  | maxLength most =>
    match length? v with
    | some actual => if most < actual then some (.maxLength most actual) else none
    | none => none
  | pattern source regex =>
    match v.scalarText? with
    | some t => if regex.isMatch t then none else some (.pattern source)
    | none => none
  | min bound => if bound.compare? v = some .lt then some (.min bound.text) else none
  | max bound => if bound.compare? v = some .gt then some (.max bound.text) else none

/-- What a value does wrong under a validator. -/
def check (validator : Validator) (v : Json) : Option Violation :=
  if v.isEmpty then
    match validator with
    | required => some .required
    | _ => none
  else validator.checkFilled v

/-- What a value does wrong under a chain of validators, in their order. -/
def violations (chain : List Validator) (v : Json) : List Violation :=
  chain.filterMap fun validator => validator.check v

/-! ### The chain of a field -/

/-- A pattern between anchors. An anchor that stands at its end already is not
repeated. -/
def anchored (pattern : String) : String :=
  (if pattern.startsWith "^" then "" else "^") ++ pattern
    ++ (if pattern.endsWith "$" then "" else "$")

/-- The validator of a pattern. -/
def ofPattern? (p : String) : Option Validator :=
  if p.isEmpty then none
  else (Regex.parse? (anchored p)).map fun r => .pattern (anchored p) r

/-- The chain of some rules for a field of the given kind. -/
def ofRules (kind : FieldKind) (rules : FieldRules) : List Validator :=
  (if rules.required then [required] else [])
    ++ (if rules.email || kind = .email then [email] else [])
    ++ (rules.minLength.map minLength).toList
    ++ (rules.maxLength.map maxLength).toList
    ++ (rules.pattern.bind ofPattern?).toList
    ++ ((rules.min.bind Bound.ofJson?).map min).toList
    ++ ((rules.max.bind Bound.ofJson?).map max).toList

/-- The chain of a field. -/
def ofField (f : FieldSpec) : List Validator := ofRules f.kind (f.rules.getD {})

end Validator

end SmartForm
