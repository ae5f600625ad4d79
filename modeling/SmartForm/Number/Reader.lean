import SmartForm.Number.Double

/-!
# Reading a number from a text

`SmartForm.Double.parse?` takes a whole text as a double, the way a bound or a
value typed into a form is taken: an optional sign, then digits with an optional
point and an optional exponent, or one of the three words for the numbers that
are not finite. The result is the nearest double. Nothing around the number is
skipped and there is no mark between groups of digits.

The reader of documents has a stricter grammar and another rounding, and shares
only `SmartForm.Digits` with this one.
-/

namespace SmartForm

namespace Digits

/-- The digits at the start of a text, and what follows them. -/
def split (cs : List Char) : List Char × List Char :=
  (cs.takeWhile Char.isDigit, cs.dropWhile Char.isDigit)

/-- The number that a digit stands for. -/
def digit (c : Char) : Nat := c.toNat - '0'.toNat

/-- The number that a row of digits stands for. -/
def value (ds : List Char) : Nat := ds.foldl (fun n c => 10 * n + digit c) 0

/-- The number that a digit to a base of at most sixteen stands for. -/
def digit? (base : Nat) (c : Char) : Option Nat :=
  let n :=
    if c.isDigit then c.toNat - '0'.toNat
    else if 'a' ≤ c ∧ c ≤ 'f' then c.toNat - 'a'.toNat + 10
    else if 'A' ≤ c ∧ c ≤ 'F' then c.toNat - 'A'.toNat + 10
    else base
  if n < base then some n else none

/-- The number that a row of at least one digit to a base stands for. -/
def value? (base : Nat) (cs : List Char) : Option Nat :=
  if cs.isEmpty then none
  else cs.foldl (fun n c => n.bind fun n => (digit? base c).map fun d => n * base + d) (some 0)

end Digits

namespace Double

/-- The exponent part of a number, which has to reach the end of the text. -/
def parseExponent? : List Char → Option Int
  | [] => some 0
  | c :: cs =>
    if c = 'e' ∨ c = 'E' then
      let (negative, cs) := match cs with
        | '-' :: rest => (true, rest)
        | '+' :: rest => (false, rest)
        | _ => (false, cs)
      match Digits.split cs with
      | ([], _) => none
      | (ds, []) => some (if negative then -(Digits.value ds : Int) else Digits.value ds)
      | (_, _ :: _) => none
    else none

/-- A number without its sign: digits on at least one side of the point. -/
def parseMagnitude? (negative : Bool) (cs : List Char) : Option Double :=
  let (whole, cs) := Digits.split cs
  let (fraction, cs) := match cs with
    | '.' :: rest => Digits.split rest
    | _ => ([], cs)
  if whole.isEmpty && fraction.isEmpty then none
  else (parseExponent? cs).map fun e =>
    ofDecimal negative (Digits.value (whole ++ fraction)) (e - fraction.length)

/-- The words for the numbers that are not finite, in any mixture of cases. -/
def parseWord? (negative : Bool) (cs : List Char) : Option Double :=
  let word := cs.map Char.toLower
  if word = ['i', 'n', 'f'] ∨ word = ['i', 'n', 'f', 'i', 'n', 'i', 't', 'y'] then
    some (.infinite negative)
  else if word = ['n', 'a', 'n'] then some .nan
  else none

/-- The double that a whole text writes, if it writes one. -/
def parse? (s : String) : Option Double :=
  let (negative, cs) := match s.toList with
    | '-' :: rest => (true, rest)
    | '+' :: rest => (false, rest)
    | cs => (false, cs)
  (parseMagnitude? negative cs).orElse fun _ => parseWord? negative cs

end Double

end SmartForm
