import SmartForm.Calendar.Date
import SmartForm.Number.Reader
import SmartForm.Text.Blank

/-!
# Reading dates

A date stands alone (`SmartForm.Date.parsePlain?`) or in front of a time with an
offset (`SmartForm.Date.parseTimestamp?`).

* Alone, its three numbers may have blanks in front of them, the month and the day
  may be short, and the year has at most four digits unless it carries a sign.
* In a timestamp every number has its full width, a second of `60` is a leap
  second, and the offset is less than a day. The date is the one that is written,
  whatever the offset.
-/

namespace SmartForm

namespace Date

/-! ### Numbers -/

/-- At least one and at most `most` digits at the start of a text. -/
def digits? (most : Nat) (cs : List Char) : Option (Nat × List Char) :=
  let ds := (cs.take most).takeWhile Char.isDigit
  if ds.isEmpty then none else some (Digits.value ds, cs.drop ds.length)

/-- Exactly `width` digits at the start of a text. -/
def exactDigits? (width : Nat) (cs : List Char) : Option (Nat × List Char) :=
  let ds := cs.take width
  if ds.length = width && ds.all Char.isDigit then some (Digits.value ds, cs.drop width) else none

/-- One given character at the start of a text. -/
def mark? (c : Char) : List Char → Option (List Char)
  | d :: rest => if c = d then some rest else none
  | [] => none

/-- The year of a date that stands alone. -/
def year? (cs : List Char) : Option (Int × List Char) :=
  match Text.trimStart cs with
  | '-' :: rest => (digits? rest.length rest).map fun (n, rest) => (-(n : Int), rest)
  | '+' :: rest => (digits? rest.length rest).map fun (n, rest) => ((n : Int), rest)
  | rest => (digits? 4 rest).map fun (n, rest) => ((n : Int), rest)

/-- The month or the day of a date that stands alone. -/
def part? (cs : List Char) : Option (Nat × List Char) := digits? 2 (Text.trimStart cs)

/-! ### Dates -/

/-- A date that stands alone. -/
def parsePlain? (cs : List Char) : Option Date := do
  let (year, cs) ← year? cs
  let cs ← mark? '-' cs
  let (month, cs) ← part? cs
  let cs ← mark? '-' cs
  let (day, cs) ← part? cs
  if cs.isEmpty then of? year month day else none

/-- The fraction of a second, which may be missing. -/
def skipFraction? : List Char → Option (List Char)
  | '.' :: rest =>
    match Digits.split rest with
    | ([], _) => none
    | (_, rest) => some rest
  | cs => some cs

/-- Whether the text is an offset: the letter of the zero meridian, or a sign with
hours and minutes. -/
def isOffset (cs : List Char) : Bool :=
  match cs with
  | ['Z'] => true
  | ['z'] => true
  | sign :: rest =>
    (sign = '+' || sign = '-' || sign = '−') &&
      (match exactDigits? 2 rest with
        | some (hours, ':' :: rest) =>
          match exactDigits? 2 rest with
          | some (minutes, []) => hours < 24 && minutes < 60
          | _ => false
        | _ => false)
  | [] => false

/-- A date in front of a time with an offset. -/
def parseTimestamp? (cs : List Char) : Option Date := do
  let (year, cs) ← exactDigits? 4 cs
  let cs ← mark? '-' cs
  let (month, cs) ← exactDigits? 2 cs
  let cs ← mark? '-' cs
  let (day, cs) ← exactDigits? 2 cs
  let cs ← match cs with
    | c :: rest => if c = 'T' ∨ c = 't' ∨ c = ' ' then some rest else none
    | [] => none
  let (hour, cs) ← exactDigits? 2 cs
  let cs ← mark? ':' cs
  let (minute, cs) ← exactDigits? 2 cs
  let cs ← mark? ':' cs
  let (second, cs) ← exactDigits? 2 cs
  let cs ← skipFraction? cs
  if isOffset cs && hour < 24 && minute < 60 && second ≤ 60 then of? year month day else none

/-- The date that a text writes, alone or in front of a time. -/
def parse? (s : String) : Option Date :=
  (parsePlain? s.toList).orElse fun _ => parseTimestamp? s.toList

end Date

end SmartForm
