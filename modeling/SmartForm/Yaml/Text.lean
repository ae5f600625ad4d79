import SmartForm.Number.Reader

/-!
# Texts in YAML documents

A text stands in a YAML document without quotes, in single or double quotes, or as
a block of lines behind a bar or an angle. In all of these a text may go over
several lines, which are **folded**: a single line break becomes a blank, and of
several line breaks the first is dropped.

A place in a document (`SmartForm.Yaml.Place`) knows its column, because columns
carry the structure of the document.
-/

namespace SmartForm

namespace Yaml

/-! ### Places -/

/-- A place in a document. -/
structure Place where
  /-- How many characters stand before the place in its line. -/
  column : Nat
  /-- What follows. -/
  rest : List Char
deriving Repr, Inhabited

/-- The blanks inside a line. -/
def isBlank (c : Char) : Bool := c = ' ' || c = '\t'

/-- Whether nothing or a blank or a line break follows. -/
def endsWord (cs : List Char) : Bool :=
  match cs with
  | [] => true
  | c :: _ => isBlank c || c = '\n'

/-- Whether nothing more stands in the line, given what follows a word. -/
def endsLine (cs : List Char) : Bool :=
  match cs with
  | [] => true
  | c :: _ => c = '\n'

namespace Place

/-- The place behind `n` characters that break no line. -/
def skip (p : Place) (n : Nat) : Place := ⟨p.column + n, p.rest.drop n⟩

/-- The place behind the blanks of the line. -/
def skipBlanks (p : Place) : Place := p.skip (p.rest.takeWhile isBlank).length

/-- The place at the end of the line. -/
def toLineEnd (p : Place) : Place := p.skip (p.rest.takeWhile (· ≠ '\n')).length

/-- The place behind a line break and the spaces after it, together with the number
of line breaks: lines that hold only spaces are passed. -/
def nextLine (fuel : Nat) (breaks : Nat) (cs : List Char) : Nat × Place :=
  let spaces := (cs.takeWhile (· = ' ')).length
  match fuel, cs.drop spaces with
  | fuel + 1, '\n' :: rest => nextLine fuel (breaks + 1) rest
  | _, rest => (breaks, ⟨spaces, rest⟩)

/-- The first place with content in one of the next lines, with the number of line
breaks in between. The place has to be at the end of a line. -/
def overBreaks (p : Place) : Nat × Place :=
  match p.rest with
  | '\n' :: rest => nextLine rest.length 1 rest
  | _ => (0, p)

/-- Whether a mark between documents stands at the place. -/
def isMark (p : Place) : Bool :=
  p.column = 0 && match p.rest with
    | '-' :: '-' :: '-' :: rest => endsWord rest
    | '.' :: '.' :: '.' :: rest => endsWord rest
    | _ => false

/-- Whether the document ends at the place. -/
def isEnd (p : Place) : Bool := p.rest.isEmpty || p.isMark

/-- Whether an item of a list starts at the place. -/
def isDash (p : Place) : Bool :=
  match p.rest with
  | '-' :: rest => endsWord rest
  | _ => false

end Place

/-! ### Folding -/

/-- What becomes of some line breaks, given their number. -/
def foldedBreaks (breaks : Nat) : List Char :=
  if breaks ≤ 1 then [' '] else List.replicate (breaks - 1) '\n'

/-! ### Texts without quotes -/

/-- The characters that structure lists and objects in brackets. -/
def isFlowMark (c : Char) : Bool :=
  c = ',' || c = '[' || c = ']' || c = '\x7b' || c = '\x7d'

/-- The characters that start something else than a text without quotes. -/
def isIndicator (c : Char) : Bool :=
  isFlowMark c || "#&*!|>'\"%@\x60".toList.contains c

/-- Whether a colon in front of the given characters separates a name from its
value. -/
def separates (inFlow : Bool) (cs : List Char) : Bool :=
  endsWord cs || match cs with
    | c :: _ => inFlow && isFlowMark c
    | [] => false

/-- Whether a text without quotes may start with the given characters. -/
def startsPlain (inFlow : Bool) : List Char → Bool
  | [] => false
  | c :: rest =>
    if c = '-' ∨ c = '?' ∨ c = ':' then !separates inFlow rest
    else !isIndicator c && !isBlank c && c ≠ '\n'

/-- The characters of a text without quotes up to its end in the line, blanks
before the end included. -/
def plainRun (inFlow : Bool) : List Char → List Char
  | [] => []
  | c :: rest =>
    if c = '\n' then []
    else if c = ':' && separates inFlow rest then []
    else if inFlow && isFlowMark c then []
    else if isBlank c then
      match rest with
      | '#' :: _ => []
      | _ => c :: plainRun inFlow rest
    else c :: plainRun inFlow rest

/-- A text without the blanks at its end. -/
def trimBlanks (cs : List Char) : List Char := (cs.reverse.dropWhile isBlank).reverse

/-- A text without quotes as far as it goes in the line. -/
def plainLine (inFlow : Bool) (p : Place) : List Char × Place :=
  let text := trimBlanks (plainRun inFlow p.rest)
  (text, p.skip text.length)

/-- Goes on with a text without quotes in the next lines, as long as they start in
a column from `least` on. -/
def plainMore (inFlow : Bool) (least : Nat) (fuel : Nat) (done : List Char) (p : Place) :
    List Char × Place :=
  match fuel with
  | 0 => (done, p)
  | fuel + 1 =>
    let q := p.skipBlanks
    if !endsLine q.rest || q.rest.isEmpty then (done, p)
    else
      let (breaks, q) := q.overBreaks
      let q := if inFlow then q.skipBlanks else q
      let goesOn := match q.rest with
        | [] => false
        | c :: rest =>
          c ≠ '#' && !(c = ':' && separates inFlow rest) && !(inFlow && isFlowMark c)
            && c ≠ '\t' && c ≠ '\n'
      if q.isEnd || q.column < least || !goesOn then (done, p)
      else
        let (text, q) := plainLine inFlow q
        plainMore inFlow least fuel (done ++ foldedBreaks breaks ++ text) q

/-- A text without quotes over several lines. -/
def plain (inFlow : Bool) (least : Nat) (p : Place) : List Char × Place :=
  let (text, q) := plainLine inFlow p
  plainMore inFlow least p.rest.length text q

/-! ### Texts in quotes -/

/-- The character of an escape of one letter. -/
def escaped? (c : Char) : Option Char :=
  let table : List (Char × Nat) :=
    [('0', 0), ('a', 7), ('b', 8), ('t', 9), ('\t', 9), ('n', 10), ('v', 11), ('f', 12),
     ('r', 13), ('e', 27), (' ', 32), ('"', 34), ('/', 47), ('\\', 92), ('N', 0x85),
     ('_', 0xA0), ('L', 0x2028), ('P', 0x2029)]
  (table.lookup c).map Char.ofNat

/-- How many hexadecimal digits follow the letter of an escape. -/
def escapeLength? (c : Char) : Option Nat :=
  if c = 'x' then some 2 else if c = 'u' then some 4 else if c = 'U' then some 8 else none

/-- The character that some hexadecimal digits stand for. -/
def numbered? (cs : List Char) : Option Char :=
  (Digits.value? 16 cs).bind fun n =>
    if n < 0x110000 ∧ ¬(0xD800 ≤ n ∧ n < 0xE000) then some (Char.ofNat n) else none

/-- The inside of a text in quotes and the place behind its closing quote. The text
so far is `done`, in reverse, of which `kept` characters may not be taken for
blanks at the end of a line. -/
def quotedFrom (double : Bool) (fuel : Nat) (done : List Char) (kept : Nat) (p : Place) :
    Option (List Char × Place) :=
  match fuel, p.rest with
  | fuel + 1, '\n' :: _ =>
    let body := done.take (done.length - kept)
    let trimmed := body.dropWhile isBlank ++ done.drop (done.length - kept)
    let (breaks, q) := p.overBreaks
    let next := (foldedBreaks breaks).reverse ++ trimmed
    quotedFrom double fuel next next.length q.skipBlanks
  | fuel + 1, c :: rest =>
    if double then
      if c = '"' then some (done.reverse, p.skip 1)
      else if c = '\\' then
        match rest with
        | [] => none
        | e :: rest =>
          if e = '\n' then
            let q := (Place.mk 0 rest).skipBlanks
            quotedFrom double fuel done done.length q
          else match escapeLength? e with
            | some n =>
              if rest.length < n then none
              else match numbered? (rest.take n) with
                | some x => quotedFrom double fuel (x :: done) (done.length + 1) (p.skip (n + 2))
                | none => none
            | none =>
              match escaped? e with
              | some x => quotedFrom double fuel (x :: done) (done.length + 1) (p.skip 2)
              | none => none
      else quotedFrom double fuel (c :: done) kept (p.skip 1)
    else if c = '\'' then
      match rest with
      | '\'' :: _ => quotedFrom double fuel ('\'' :: done) kept (p.skip 2)
      | _ => some (done.reverse, p.skip 1)
    else quotedFrom double fuel (c :: done) kept (p.skip 1)
  | _, _ => none

/-- A text in quotes, at its opening quote. -/
def quoted? (p : Place) : Option (String × Place) :=
  match p.rest with
  | '"' :: rest =>
    (quotedFrom true (rest.length + 1) [] 0 (p.skip 1)).map fun (s, q) => (String.ofList s, q)
  | '\'' :: rest =>
    (quotedFrom false (rest.length + 1) [] 0 (p.skip 1)).map fun (s, q) => (String.ofList s, q)
  | _ => none

/-! ### Blocks of lines -/

/-- What happens to the line breaks at the end of a block. -/
inductive Chomping where
  /-- None is kept. -/
  | strip
  /-- One is kept. -/
  | clip
  /-- All are kept. -/
  | keep
deriving DecidableEq, Repr

/-- The head of a block: what happens at its end, and how far it is indented more
than what is around it, if that is said. -/
def blockHead? : List Char → Option (Chomping × Option Nat)
  | [] => some (.clip, none)
  | [c] => mark c (.clip, none)
  | [c, d] => (mark c (.clip, none)).bind (mark d)
  | _ => none
where
  /-- Takes one character of the head into account. -/
  mark (c : Char) (head : Chomping × Option Nat) : Option (Chomping × Option Nat) :=
    if c = '+' then if head.1 = .clip then some (.keep, head.2) else none
    else if c = '-' then if head.1 = .clip then some (.strip, head.2) else none
    else if c.isDigit && c ≠ '0' && head.2.isNone then
      some (head.1, some (c.toNat - '0'.toNat))
    else none

/-- The lines of a block with the given indentation: each with its text, and the
place at the end of the last one. A line of spaces is empty. -/
def blockLines (indent : Nat) (fuel : Nat) (p : Place) : List (List Char) × Place :=
  match fuel, p.rest with
  | fuel + 1, '\n' :: rest =>
    let spaces := (rest.takeWhile (· = ' ')).length
    let line := rest.takeWhile (· ≠ '\n')
    let q : Place := ⟨line.length, rest.drop line.length⟩
    if line.length = spaces then
      if q.rest.isEmpty && spaces < indent then ([], p)
      else
        let (lines, q) := blockLines indent fuel q
        (line.drop indent :: lines, q)
    else if spaces < indent then ([], p)
    else
      let (lines, q) := blockLines indent fuel q
      (line.drop indent :: lines, q)
  | _, _ => ([], p)

/-- Whether a line starts with a blank. -/
def isIndented : List Char → Bool
  | c :: _ => isBlank c
  | [] => false

/-- Joins the lines of a block, the last line without its break. The number of
empty lines before the next one is `empty`. -/
def joinLines (folded : Bool) (previous : List Char) (empty : Nat) :
    List (List Char) → List Char
  | [] => []
  | line :: rest =>
    if line.isEmpty then joinLines folded previous (empty + 1) rest
    else
      let breaks :=
        if folded && !isIndented previous && !isIndented line then
          if empty = 0 then [' '] else List.replicate empty '\n'
        else List.replicate (empty + 1) '\n'
      breaks ++ line ++ joinLines folded line 0 rest

/-- The text of a block of lines. -/
def blockText (folded : Bool) (chomping : Chomping) (lines : List (List Char)) : List Char :=
  let leading := lines.takeWhile List.isEmpty
  let trailing := (lines.reverse.takeWhile List.isEmpty).length
  match lines.dropWhile List.isEmpty with
  | [] => match chomping with
    | .keep => List.replicate lines.length '\n'
    | _ => []
  | first :: rest =>
    let body := List.replicate leading.length '\n' ++ first ++ joinLines folded first 0 rest
    match chomping with
    | .strip => body
    | .clip => body ++ ['\n']
    | .keep => body ++ List.replicate (trailing + 1) '\n'

/-- A block of lines, at its bar or angle; what is around it is indented by `outer`
columns. -/
def block? (outer : Nat) (p : Place) : Option (String × Place) :=
  match p.rest with
  | [] => none
  | style :: rest =>
    let head := rest.takeWhile fun c => !isBlank c && c ≠ '\n'
    let q := (p.skip (head.length + 1)).skipBlanks
    let q := match q.rest with
      | '#' :: _ => q.toLineEnd
      | _ => q
    match blockHead? head with
    | none => none
    | some (chomping, extra) =>
      if !endsLine q.rest then none
      else
        let first := q.overBreaks.2.column
        let indent := match extra with
          | some n => outer + n
          | none => max first (max outer 1)
        let (lines, e) := blockLines indent rest.length q
        some (String.ofList (blockText (style = '>') chomping lines), e)

end Yaml

end SmartForm
