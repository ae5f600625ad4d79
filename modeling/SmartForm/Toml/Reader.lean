import SmartForm.Number.Reader
import SmartForm.Toml.Table

/-!
# Reading TOML

`SmartForm.Toml.read?` turns a TOML text into a value, an object in any case. A text
that is wrong in any place has no reading at all. Integers have sixty-four bits, and
dates and times are taken as texts.
-/

namespace SmartForm

namespace Toml

/-! ### Blanks -/

/-- The blanks inside a line. -/
def isBlank (c : Char) : Bool := c = ' ' || c = '\t'

/-- A text without the blanks at its start. -/
def skipBlanks (cs : List Char) : List Char := cs.dropWhile isBlank

/-- The characters that may stand in comments and texts. -/
def isAllowed (c : Char) : Bool := c = '\t' || (32 ≤ c.toNat && c.toNat ≠ 127)

/-- What follows a comment, if there is one. -/
def skipComment : List Char → List Char
  | '#' :: rest => rest.dropWhile isAllowed
  | cs => cs

/-- What follows a line break. -/
def lineBreak? : List Char → Option (List Char)
  | '\n' :: rest => some rest
  | '\r' :: '\n' :: rest => some rest
  | _ => none

/-- Passes the rest of a line in which nothing but a comment may stand. -/
def endLine? (cs : List Char) : Option (List Char) :=
  match skipComment (skipBlanks cs) with
  | [] => some []
  | cs => lineBreak? cs

/-- Passes blanks, comments and line breaks. -/
def skipSpace : Nat → List Char → List Char
  | 0, cs => cs
  | fuel + 1, cs =>
    let cs := skipComment (skipBlanks cs)
    match lineBreak? cs with
    | some rest => skipSpace fuel rest
    | none => cs

/-! ### Texts -/

/-- The character of a one-letter escape. -/
def simpleEscape? (c : Char) : Option Char :=
  (([('b', '\x08'), ('t', '\t'), ('n', '\n'), ('f', '\x0c'), ('r', '\r'), ('"', '"'),
    ('\\', '\\')] : List (Char × Char))).lookup c

/-- The character that some hexadecimal digits at the start of a text stand for. -/
def numbered? (n : Nat) (cs : List Char) : Option (Char × List Char) :=
  if cs.length < n then none
  else (Digits.value? 16 (cs.take n)).bind fun code =>
    if code < 0x110000 ∧ ¬(0xD800 ≤ code ∧ code < 0xE000) then
      some (Char.ofNat code, cs.drop n)
    else none

/-- An escape behind its backslash. -/
def escape? : List Char → Option (Char × List Char)
  | 'u' :: rest => numbered? 4 rest
  | 'U' :: rest => numbered? 8 rest
  | c :: rest => (simpleEscape? c).map fun x => (x, rest)
  | [] => none

/-- The inside of a text in one line up to its quote, `done` being what was read, in
reverse. -/
def lineText (quote : Char) : Nat → List Char → List Char → Option (String × List Char)
  | 0, _, _ => none
  | _, _, [] => none
  | fuel + 1, done, c :: rest =>
    if c = quote then some (String.ofList done.reverse, rest)
    else if c = '\\' ∧ quote = '"' then
      match escape? rest with
      | some (x, rest) => lineText quote fuel (x :: done) rest
      | none => none
    else if isAllowed c then lineText quote fuel (c :: done) rest
    else none

/-- What follows a backslash at the end of a line: the blanks and line breaks after
it are dropped. -/
def joinedLine? (fuel : Nat) (cs : List Char) : Option (List Char) :=
  (lineBreak? (skipBlanks cs)).map fun rest => overBreaks fuel rest
where
  /-- Passes blanks and line breaks. -/
  overBreaks : Nat → List Char → List Char
    | 0, cs => cs
    | fuel + 1, cs =>
      match lineBreak? (skipBlanks cs) with
      | some rest => overBreaks fuel rest
      | none => skipBlanks cs

/-- The inside of a text over several lines up to its three quotes, before which up
to two more quotes may belong to the text. -/
def linesText (quote : Char) : Nat → List Char → List Char → Option (String × List Char)
  | 0, _, _ => none
  | _, _, [] => none
  | fuel + 1, done, c :: rest =>
    if c = quote then
      let count := ((c :: rest).takeWhile (· = quote)).length
      if count < 3 then linesText quote fuel (c :: done) rest
      else if count ≤ 5 then
        some (String.ofList (List.replicate (count - 3) quote ++ done).reverse,
          (c :: rest).drop count)
      else none
    else if c = '\\' ∧ quote = '"' then
      match joinedLine? fuel rest with
      | some rest => linesText quote fuel done rest
      | none =>
        match escape? rest with
        | some (x, rest) => linesText quote fuel (x :: done) rest
        | none => none
    else match lineBreak? (c :: rest) with
      | some rest => linesText quote fuel ('\n' :: done) rest
      | none => if isAllowed c then linesText quote fuel (c :: done) rest else none

/-- A text in quotes, at its opening quote. -/
def quoted? (cs : List Char) : Option (String × List Char) :=
  let fuel := cs.length
  let first (rest : List Char) : List Char := (lineBreak? rest).getD rest
  match cs with
  | '"' :: '"' :: '"' :: rest => linesText '"' fuel [] (first rest)
  | '\'' :: '\'' :: '\'' :: rest => linesText '\'' fuel [] (first rest)
  | '"' :: rest => lineText '"' fuel [] rest
  | '\'' :: rest => lineText '\'' fuel [] rest
  | _ => none

/-! ### Names -/

/-- The characters of a name without quotes. -/
def isNameChar (c : Char) : Bool := c.isAlphanum || c = '_' || c = '-'

/-- One part of a name. -/
def namePart? (cs : List Char) : Option (String × List Char) :=
  match cs with
  | '"' :: rest => lineText '"' cs.length [] rest
  | '\'' :: rest => lineText '\'' cs.length [] rest
  | _ =>
    let part := cs.takeWhile isNameChar
    if part.isEmpty then none else some (String.ofList part, cs.drop part.length)

/-- The parts of a name with dots between them, and what follows it. -/
def nameFrom : Nat → List Char → Option (List String × List Char)
  | 0, _ => none
  | fuel + 1, cs =>
    match namePart? (skipBlanks cs) with
    | none => none
    | some (part, rest) =>
      match skipBlanks rest with
      | '.' :: rest => (nameFrom fuel rest).map fun (parts, rest) => (part :: parts, rest)
      | rest => some ([part], rest)

/-- The parts of a name with dots between them, and what follows it. -/
def name? (cs : List Char) : Option (List String × List Char) := nameFrom (cs.length + 1) cs

/-! ### Numbers and dates -/

/-- Digits without the lines between them. A line needs a digit on both sides. -/
def ungrouped? (isDigit : Char → Bool) (cs : List Char) : Option (List Char) :=
  let rec go : List Char → Bool
    | [] => true
    | [c] => isDigit c
    | c :: d :: rest =>
      (isDigit c && (isDigit d || d = '_') || c = '_' && isDigit d) && go (d :: rest)
  match cs with
  | [] => none
  | c :: _ => if isDigit c && go cs then some (cs.filter (· ≠ '_')) else none

/-- A sign and what follows it. -/
def signed (cs : List Char) : Bool × List Char :=
  match cs with
  | '-' :: rest => (true, rest)
  | '+' :: rest => (false, rest)
  | _ => (false, cs)

/-- Whether digits start with a zero that does not belong there. -/
def isPadded : List Char → Bool
  | '0' :: _ :: _ => true
  | _ => false

/-- An integer, given without a sign to the base sixteen, eight or two. -/
def magnitude? (base : Nat) (cs : List Char) : Option Nat :=
  (ungrouped? (fun c => (Digits.digit? base c).isSome) cs).bind (Digits.value? base)

/-- The integer that a text writes. -/
def int? (cs : List Char) : Option Int :=
  let found : Option Int := match cs with
    | '0' :: 'x' :: rest => (magnitude? 16 rest).map Int.ofNat
    | '0' :: 'o' :: rest => (magnitude? 8 rest).map Int.ofNat
    | '0' :: 'b' :: rest => (magnitude? 2 rest).map Int.ofNat
    | _ =>
      let (negative, digits) := signed cs
      ((ungrouped? Char.isDigit digits).filter fun ds => !isPadded ds).map fun ds =>
        let n : Int := Digits.value ds
        if negative then -n else n
  found.filter Word.fitsSigned

/-- The number with a fraction or an exponent that a text writes. -/
def float? (cs : List Char) : Option Double :=
  let (negative, digits) := signed cs
  if digits = ['i', 'n', 'f'] then some (.infinite negative)
  else if digits = ['n', 'a', 'n'] then some .nan
  else
    let whole := digits.takeWhile fun c => c.isDigit || c = '_'
    let rest := digits.drop whole.length
    let (fraction, rest) := match rest with
      | '.' :: more =>
        let ds := more.takeWhile fun c => c.isDigit || c = '_'
        (some ds, more.drop ds.length)
      | _ => (none, rest)
    let exponent : Option (Option (List Char)) := match rest with
      | [] => some none
      | e :: more => if e = 'e' ∨ e = 'E' then some (some more) else none
    match ungrouped? Char.isDigit whole, exponent with
    | some whole, some exponent =>
      let fraction := match fraction with
        | none => some []
        | some ds => ungrouped? Char.isDigit ds
      let power : Option Int := match exponent with
        | none => some 0
        | some cs =>
          let (negative, ds) := signed cs
          (ungrouped? Char.isDigit ds).map fun ds =>
            let n : Int := Digits.value ds
            if negative then -n else n
      if isPadded whole || rest.isEmpty && fraction = some [] then none
      else match fraction, power with
        | some fraction, some power =>
          some (.ofDecimal negative (Digits.value (whole ++ fraction)) (power - fraction.length))
        | _, _ => none
    | _, _ => none

/-- Whether a text has the form of a date, a time, or both. -/
def isMoment (cs : List Char) : Bool :=
  let isDate := fun (cs : List Char) => match cs with
    | [a, b, c, d, '-', e, f, '-', g, h] => [a, b, c, d, e, f, g, h].all Char.isDigit
    | _ => false
  let isTime := fun (cs : List Char) => match cs with
    | a :: b :: ':' :: c :: d :: ':' :: e :: f :: rest =>
      [a, b, c, d, e, f].all Char.isDigit && match rest with
        | '.' :: ds => !ds.isEmpty && ds.all Char.isDigit
        | _ => rest.isEmpty
    | _ => false
  let isOffset := fun (cs : List Char) => match cs with
    | ['Z'] => true
    | ['z'] => true
    | [s, a, b, ':', c, d] => (s = '+' || s = '-') && [a, b, c, d].all Char.isDigit
    | _ => cs.isEmpty
  if isDate cs || isTime cs then true
  else
    let rest := cs.drop 11
    let time := rest.takeWhile fun c => c.isDigit || c = ':' || c = '.'
    isDate (cs.take 10) && (match cs[10]? with
      | some c => c = 'T' || c = 't' || c = ' '
      | none => false) && isTime time && isOffset (rest.drop time.length)

/-- The characters of numbers and dates. -/
def isWordChar (c : Char) : Bool :=
  c.isAlphanum || c = '_' || c = '-' || c = '+' || c = '.' || c = ':'

/-- A value without quotes and brackets. A date may be joined to a time by a blank. -/
def word? (cs : List Char) : Option (Json × List Char) :=
  let w := cs.takeWhile isWordChar
  let rest := cs.drop w.length
  let (w, rest) := match rest with
    | ' ' :: more =>
      let time := more.takeWhile isWordChar
      if w.length = 10 && isMoment w && isMoment (w ++ ' ' :: time) then
        (w ++ ' ' :: time, more.drop time.length)
      else (w, rest)
    | _ => (w, rest)
  let value : Option Json :=
    if w = "true".toList then some (.bool true)
    else if w = "false".toList then some (.bool false)
    else match int? w with
      | some i => some (.int i)
      | none =>
        match float? w with
        | some d => some (.number (.float d))
        | none => if isMoment w then some (.string (String.ofList w)) else none
  value.map fun v => (v, rest)

/-! ### Values -/

/-- Gives a value to a name with dots. -/
def assign (name : List String) (v : Json) (t : Table) : Option Table :=
  match name.reverse with
  | [] => none
  | last :: before => Table.change .dotted (Table.give last v) before.reverse t

mutual

/-- A value. -/
def value? : Nat → List Char → Option (Json × List Char)
  | 0, _ => none
  | fuel + 1, cs =>
    match cs with
    | '[' :: rest => (items? fuel rest).map fun (vs, rest) => (.array vs, rest)
    | '\x7b' :: rest =>
      match skipBlanks rest with
      | '\x7d' :: rest => some (.object [], rest)
      | rest => (members? fuel [] rest).map fun (t, rest) => (t.toJson, rest)
    | '"' :: _ => (quoted? cs).map fun (s, rest) => (.string s, rest)
    | '\'' :: _ => (quoted? cs).map fun (s, rest) => (.string s, rest)
    | _ => word? cs

/-- The items of a list up to the closing bracket. -/
def items? : Nat → List Char → Option (List Json × List Char)
  | 0, _ => none
  | fuel + 1, cs =>
    match skipSpace cs.length cs with
    | ']' :: rest => some ([], rest)
    | cs =>
      match value? fuel cs with
      | none => none
      | some (v, rest) =>
        match skipSpace rest.length rest with
        | ',' :: rest => (items? fuel rest).map fun (vs, rest) => (v :: vs, rest)
        | ']' :: rest => some ([v], rest)
        | _ => none

/-- The members of a table in braces, of which there is at least one more. -/
def members? : Nat → Table → List Char → Option (Table × List Char)
  | 0, _, _ => none
  | fuel + 1, t, cs =>
    match name? cs with
    | some (name, '=' :: rest) =>
      match value? fuel (skipBlanks rest) with
      | none => none
      | some (v, rest) =>
        match assign name v t with
        | none => none
        | some t =>
          match skipBlanks rest with
          | ',' :: rest => members? fuel t rest
          | '\x7d' :: rest => some (t, rest)
          | _ => none
    | _ => none

end

/-! ### Lines -/

/-- Starts the table of a heading. -/
def open? (f : String → Table → Option Table) (name : List String) (t : Table) : Option Table :=
  match name.reverse with
  | [] => none
  | last :: before => Table.change .implied (f last) before.reverse t

/-- Gives a value to a name under a heading. -/
def assignUnder (heading name : List String) (v : Json) (t : Table) : Option Table :=
  Table.change .implied (assign name v) heading t

/-- Reads the lines of a document under a heading into a table. -/
def lines : Nat → List String → Table → List Char → Option Table
  | 0, _, _, _ => none
  | fuel + 1, heading, t, cs =>
    match skipSpace cs.length cs with
    | [] => some t
    | '[' :: '[' :: rest =>
      match name? rest with
      | some (name, ']' :: ']' :: rest) =>
        match open? Table.enterNext name t, endLine? rest with
        | some t, some rest => lines fuel name t rest
        | _, _ => none
      | _ => none
    | '[' :: rest =>
      match name? rest with
      | some (name, ']' :: rest) =>
        match open? Table.enter name t, endLine? rest with
        | some t, some rest => lines fuel name t rest
        | _, _ => none
      | _ => none
    | cs =>
      match name? cs with
      | some (name, '=' :: rest) =>
        match value? (2 * rest.length + 2) (skipBlanks rest) with
        | none => none
        | some (v, rest) =>
          match assignUnder heading name v t, endLine? rest with
          | some t, some rest => lines fuel heading t rest
          | _, _ => none
      | _ => none

/-- The object that a text writes. -/
def read? (text : String) : Option Json :=
  let cs := match text.toList with
    | '\uFEFF' :: rest => rest
    | cs => cs
  (lines (cs.length + 1) [] [] cs).map Table.toJson

end Toml

end SmartForm
