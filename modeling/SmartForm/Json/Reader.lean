import SmartForm.Json.Document
import SmartForm.Number.Reader

/-!
# Reading JSON

`SmartForm.Json.readDocument` turns a text into a `SmartForm.Document` and says
whether anything but blanks follows it. The reader never fails: what is wrong
with a text is a leaf of the tree.

## What the grammar fixes

* Blanks are the space, the tab, the line feed and the carriage return.
* A number has no leading zero and a digit on both sides of its point. Without a
  point and an exponent it is an integer as long as it fits into sixty-four bits,
  with or without a sign, and `-0` is the double. Any other number is the
  significand of its leading digits, as many as fit into sixty-four bits, moved by
  a power of ten (`SmartForm.Double.ofScaled`).
* A text has no control character, and the halves of a surrogate pair stand
  together. A lone half makes the text unreadable, yet it still can be skipped.
-/

namespace SmartForm

namespace Json

/-! ### Leaves -/

/-- The blanks of the grammar. -/
def isBlank (c : Char) : Bool := c = ' ' || c = '\n' || c = '\t' || c = '\r'

/-- A text without the blanks at its start. -/
def skipBlanks (cs : List Char) : List Char := cs.dropWhile isBlank

/-- Four hexadecimal digits and what follows them. -/
def hexUnit? : List Char → Option (Nat × List Char)
  | a :: b :: c :: d :: rest => (Digits.value? 16 [a, b, c, d]).map fun n => (n, rest)
  | _ => none

/-- The character of a one-letter escape. -/
def simpleEscape? (c : Char) : Option Char :=
  if c = '"' ∨ c = '\\' ∨ c = '/' then some c
  else if c = 'b' then some '\x08'
  else if c = 'f' then some '\x0c'
  else if c = 'n' then some '\n'
  else if c = 'r' then some '\r'
  else if c = 't' then some '\t'
  else none

/-- The inside of a quoted text up to its closing quote: the text, or nothing if
it is unreadable, and what follows the quote. There is no answer if the text is
of the wrong form. `high` is the first half of a surrogate pair that the next
escape has to complete, and `done` collects the characters in reverse. -/
def quotedBody? (fuel : Nat) (done : List Char) (readable : Bool) (high : Option Nat)
    (cs : List Char) : Option (Option String × List Char) :=
  match fuel, cs with
  | fuel + 1, '\\' :: 'u' :: rest =>
    match hexUnit? rest with
    | none => none
    | some (unit, rest) =>
      if 0xD800 ≤ unit ∧ unit < 0xDC00 then
        quotedBody? fuel done (readable && high.isNone) (some unit) rest
      else if 0xDC00 ≤ unit ∧ unit < 0xE000 then
        match high with
        | some h =>
          let c := Char.ofNat (0x10000 + (h - 0xD800) * 0x400 + (unit - 0xDC00))
          quotedBody? fuel (c :: done) readable none rest
        | none => quotedBody? fuel done false none rest
      else quotedBody? fuel (Char.ofNat unit :: done) (readable && high.isNone) none rest
  | fuel + 1, '\\' :: c :: rest =>
    match simpleEscape? c with
    | none => none
    | some c => quotedBody? fuel (c :: done) (readable && high.isNone) none rest
  | fuel + 1, c :: rest =>
    if c = '"' then
      some (if readable && high.isNone then some (String.ofList done.reverse) else none, rest)
    else if c = '\\' ∨ c.toNat < 32 then none
    else quotedBody? fuel (c :: done) (readable && high.isNone) none rest
  | _, _ => none

/-- A quoted text whose opening quote has been read. -/
def quotedText? (cs : List Char) : Option (Option String × List Char) :=
  quotedBody? (cs.length + 1) [] true none cs

/-! ### Numbers -/

/-- The largest significand. -/
def significandMax : Nat := Word.greatest

/-- Takes the digits into the significand as long as it stays in its range, and
counts the digits left over. -/
def takeDigits (significand : Nat) : List Char → Nat × Nat
  | [] => (significand, 0)
  | d :: ds =>
    let next := 10 * significand + Digits.digit d
    if next ≤ significandMax then takeDigits next ds else (significand, ds.length + 1)

/-- The number with the given whole part, fraction and exponent, of which the
last two may be missing; nothing if it is too large. -/
def numberOf (negative : Bool) (whole : List Char) (fraction : Option (List Char))
    (exponent : Option Int) : Option Number :=
  let (significand, left) := takeDigits 0 whole
  match fraction, exponent with
  | none, none =>
    if left = 0 then
      if negative then
        if significand = 0 ∨ Word.half < significand then
          some (.float (Double.ofInt significand).opposite)
        else some (.int (-(significand : Int)))
      else some (.int significand)
    else (Double.ofScaled negative significand left).map .float
  | _, _ =>
    let ds := fraction.getD []
    let (significand, ignored) := takeDigits significand ds
    let e : Int := exponent.getD 0 + left - (ds.length - ignored : Nat)
    (Double.ofScaled negative significand e).map .float

/-- The exponent of a number, if there is one. There is no answer if it has no
digits. -/
def exponent? : List Char → Option (Option Int × List Char)
  | c :: cs =>
    if c = 'e' ∨ c = 'E' then
      let (negative, cs) := match cs with
        | '-' :: rest => (true, rest)
        | '+' :: rest => (false, rest)
        | _ => (false, cs)
      match Digits.split cs with
      | ([], _) => none
      | (ds, rest) =>
        some (some (if negative then -(Digits.value ds : Int) else Digits.value ds), rest)
    else some (none, c :: cs)
  | [] => some (none, [])

/-- The fraction of a number, if there is one. There is no answer if it has no
digits. -/
def fraction? : List Char → Option (Option (List Char) × List Char)
  | '.' :: cs =>
    match Digits.split cs with
    | ([], _) => none
    | (ds, rest) => some (some ds, rest)
  | cs => some (none, cs)

/-- A number at the start of a text: its value, or nothing if it is too large,
and what follows it. There is no answer if it is of the wrong form. -/
def number? (cs : List Char) : Option (Option Number × List Char) :=
  let (negative, cs) := match cs with
    | '-' :: rest => (true, rest)
    | _ => (false, cs)
  match Digits.split cs with
  | ([], _) => none
  | ('0' :: _ :: _, _) => none
  | (whole, rest) =>
    match fraction? rest with
    | none => none
    | some (fraction, rest) =>
      match exponent? rest with
      | none => none
      | some (exponent, rest) => some (numberOf negative whole fraction exponent, rest)

/-! ### Values -/

/-- A value and what follows it; nothing follows if the reading broke off. -/
abbrev Read := Document × Option (List Char)

/-- The given word at the start of a text. -/
def word (w : String) (d : Document) (cs : List Char) : Read :=
  if w.toList.isPrefixOf cs then (d, some (cs.drop w.length)) else (.broken, none)

/-- A value that is neither a list nor an object. -/
def leaf (cs : List Char) : Read :=
  match cs with
  | [] => (.broken, none)
  | '"' :: rest =>
    match quotedText? rest with
    | none => (.broken, none)
    | some (some s, rest) => (.string s, some rest)
    | some (none, rest) => (.unreadable, some rest)
  | c :: _ =>
    if c = 'n' then word "null" .null cs
    else if c = 't' then word "true" (.bool true) cs
    else if c = 'f' then word "false" (.bool false) cs
    else if c = '-' ∨ c.isDigit then
      match number? cs with
      | none => (.broken, none)
      | some (some n, rest) => (.number n, some rest)
      | some (none, rest) => (.unreadable, some rest)
    else (.broken, none)

mutual

/-- A value at the start of a text, blanks before it included. -/
def readValue : Nat → List Char → Read
  | 0, _ => (.broken, none)
  | fuel + 1, cs =>
    match skipBlanks cs with
    | '[' :: rest =>
      match skipBlanks rest with
      | ']' :: rest => (.array [] true, some rest)
      | _ =>
        let (items, rest) := readItems fuel rest
        (.array items rest.isSome, rest)
    | '\x7b' :: rest =>
      match skipBlanks rest with
      | '\x7d' :: rest => (.object [] true, some rest)
      | _ =>
        let (members, rest) := readMembers fuel rest
        (.object members rest.isSome, rest)
    | cs => leaf cs

/-- One item of a list and those after it, with what follows the bracket. -/
def readItems : Nat → List Char → List Document × Option (List Char)
  | 0, _ => ([], none)
  | fuel + 1, cs =>
    match readValue fuel cs with
    | (d, none) => ([d], none)
    | (d, some rest) =>
      match skipBlanks rest with
      | ']' :: rest => ([d], some rest)
      | ',' :: rest =>
        let (ds, rest) := readItems fuel rest
        (d :: ds, rest)
      | _ => ([d], none)

/-- One member of an object and those after it, with what follows the brace. -/
def readMembers : Nat → List Char → List (Option String × Document) × Option (List Char)
  | 0, _ => ([], none)
  | fuel + 1, cs =>
    match skipBlanks cs with
    | '"' :: rest =>
      match quotedText? rest with
      | none => ([], none)
      | some (name, rest) =>
        match skipBlanks rest with
        | ':' :: rest =>
          match readValue fuel rest with
          | (d, none) => ([(name, d)], none)
          | (d, some rest) =>
            match skipBlanks rest with
            | '\x7d' :: rest => ([(name, d)], some rest)
            | ',' :: rest =>
              let (ms, rest) := readMembers fuel rest
              ((name, d) :: ms, rest)
            | _ => ([(name, d)], none)
        | _ => ([(name, .broken)], none)
    | _ => ([], none)

end

/-- A whole text as a document. The truth value tells whether nothing but blanks
follows it; of two steps of the reading at least one takes a character, so twice
the length of the text bounds the number of steps. -/
def readDocument (text : String) : Document × Bool :=
  let cs := text.toList
  match readValue (2 * cs.length + 2) cs with
  | (d, none) => (d, true)
  | (d, some rest) => (d, (skipBlanks rest).isEmpty)

end Json

end SmartForm
