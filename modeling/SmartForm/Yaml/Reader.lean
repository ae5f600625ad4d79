import SmartForm.Json.Document
import SmartForm.Yaml.Text

/-!
# Reading YAML

`SmartForm.Yaml.readDocument` turns a YAML text into a `SmartForm.Document`. A text
that is wrong in any place has no reading at all, and neither has one that holds
several documents, or names, tags and references of nodes.

Lists and objects are either **blocks**, whose entries start in one column, or stand
in brackets, where columns do not count. An entry without a value holds the empty
text without quotes.
-/

namespace SmartForm

namespace Yaml

/-- A part of a document and the place behind it. -/
abbrev Read := Option (Document × Place)

/-- What an entry without a value holds. -/
def absent : Document := .bare ""

/-! ### From line to line -/

/-- Passes comments and empty lines, from the start of a line that has been
indented already. A tab cannot indent. -/
def overLines (fuel : Nat) (p : Place) : Option Place :=
  match fuel, p.rest with
  | fuel + 1, '#' :: _ => overLines fuel p.toLineEnd.overBreaks.2
  | fuel + 1, '\n' :: _ => overLines fuel p.overBreaks.2
  | _, '\t' :: _ => none
  | _, _ => some p

/-- The next place with content behind a node. Nothing but a comment may follow the
node in its line. -/
def nextContent (p : Place) : Option Place :=
  let q := p.skipBlanks
  match q.rest with
  | [] => some q
  | '\n' :: _ => overLines q.rest.length q.overBreaks.2
  | '#' :: _ =>
    if p.column < q.column || p.column = 0 then
      let e := q.toLineEnd
      match e.rest with
      | [] => some e
      | _ => overLines e.rest.length e.overBreaks.2
    else none
  | _ => none

/-- Passes blanks, comments and line breaks inside of brackets. -/
def overSpace (fuel : Nat) (p : Place) : Place :=
  let q := p.skipBlanks
  match fuel, q.rest with
  | fuel + 1, '\n' :: _ => overSpace fuel q.overBreaks.2
  | fuel + 1, '#' :: _ =>
    if p.column < q.column || p.column = 0 then overSpace fuel q.toLineEnd else q
  | _, _ => q

/-- Passes blanks, comments and line breaks inside of brackets. -/
def skipSpace (p : Place) : Place := overSpace p.rest.length p

/-! ### Inside of brackets -/

/-- A leaf inside of brackets; a text in quotes is told from one without. -/
def flowLeaf (p : Place) : Read :=
  match p.rest with
  | [] => none
  | c :: _ =>
    if c = '"' ∨ c = '\'' then (quoted? p).map fun (s, q) => (.string s, q)
    else if startsPlain true p.rest then
      let (s, q) := plain true 0 p
      some (.bare (String.ofList s), q)
    else none

/-- The name that a leaf stands for. -/
def name? : Document → Option String
  | .string s => some s
  | .bare s => some s
  | _ => none

/-- Whether a colon at the place separates a name from its value. A quoted name
needs no blank behind the colon. -/
def isColon (name : Document) (p : Place) : Bool :=
  match p.rest with
  | ':' :: rest => separates true rest || match name with
    | .string _ => true
    | _ => false
  | _ => false

mutual

/-- A value inside of brackets. -/
def flowNode : Nat → Place → Read
  | 0, _ => none
  | fuel + 1, p =>
    match p.rest with
    | '[' :: _ =>
      (flowItems fuel (skipSpace (p.skip 1))).map fun (items, q) => (.array items true, q)
    | '\x7b' :: _ =>
      (flowMembers fuel (skipSpace (p.skip 1))).map fun (members, q) => (.object members true, q)
    | _ => flowLeaf p

/-- The items of a list in brackets up to the closing bracket. -/
def flowItems : Nat → Place → Option (List Document × Place)
  | 0, _ => none
  | fuel + 1, p =>
    match p.rest with
    | ']' :: _ => some ([], p.skip 1)
    | _ =>
      match flowNode fuel p with
      | none => none
      | some (d, q) =>
        let q := skipSpace q
        let item : Read :=
          if isColon d q then
            match name? d, flowValue fuel (q.skip 1) with
            | some name, some (v, q) => some (.object [(some name, v)] true, q)
            | _, _ => none
          else some (d, q)
        match item with
        | none => none
        | some (d, q) =>
          let q := skipSpace q
          match q.rest with
          | ',' :: _ =>
            (flowItems fuel (skipSpace (q.skip 1))).map fun (ds, q) => (d :: ds, q)
          | ']' :: _ => some ([d], q.skip 1)
          | _ => none

/-- The value behind a colon inside of brackets; it may be missing. -/
def flowValue : Nat → Place → Read
  | 0, _ => none
  | fuel + 1, p =>
    let q := skipSpace p
    match q.rest with
    | ',' :: _ => some (absent, p)
    | ']' :: _ => some (absent, p)
    | '\x7d' :: _ => some (absent, p)
    | _ => flowNode fuel q

/-- The members of an object in brackets up to the closing bracket. -/
def flowMembers : Nat → Place → Option (List (Option String × Document) × Place)
  | 0, _ => none
  | fuel + 1, p =>
    match p.rest with
    | '\x7d' :: _ => some ([], p.skip 1)
    | _ =>
      match flowLeaf p with
      | none => none
      | some (d, q) =>
        let q := skipSpace q
        let value : Read := if isColon d q then flowValue fuel (q.skip 1) else some (absent, q)
        match value with
        | none => none
        | some (v, q) =>
          let q := skipSpace q
          match q.rest with
          | ',' :: _ =>
            (flowMembers fuel (skipSpace (q.skip 1))).map fun (ms, q) => ((name? d, v) :: ms, q)
          | '\x7d' :: _ => some ([(name? d, v)], q.skip 1)
          | _ => none

end

/-! ### Blocks -/

/-- The name at the start of an entry of an object, with the place behind its
colon. -/
def blockName? (p : Place) : Option (String × Place) :=
  let found : Option (String × Place) :=
    match p.rest with
    | [] => none
    | c :: _ =>
      if c = '"' ∨ c = '\'' then quoted? p
      else if startsPlain false p.rest then
        let (s, q) := plainLine false p
        some (String.ofList s, q)
      else none
  found.bind fun (name, q) =>
    let q := q.skipBlanks
    match q.rest with
    | ':' :: rest => if endsWord rest then some (name, q.skip 1) else none
    | _ => none

/-- Whether nothing but a comment follows in the line. -/
def isBareLine (p : Place) : Bool :=
  let q := p.skipBlanks
  match q.rest with
  | [] => true
  | '\n' :: _ => true
  | '#' :: _ => p.column < q.column
  | _ => false

/-- A leaf or a value in brackets outside of brackets. What is around it is indented
by `outer` columns. -/
def inlineNode (outer : Nat) (p : Place) : Read :=
  match p.rest with
  | [] => none
  | c :: _ =>
    if c = '[' ∨ c = '\x7b' then flowNode (4 * p.rest.length + 4) p
    else if c = '"' ∨ c = '\'' then (quoted? p).map fun (s, q) => (.string s, q)
    else if c = '|' ∨ c = '>' then (block? outer p).map fun (s, q) => (.string s, q)
    else if startsPlain false p.rest then
      let (s, q) := plain false outer p
      some (.bare (String.ofList s), q)
    else none

mutual

/-- A value that starts in a line of its own or behind a dash. What is around it is
indented by less than `outer` columns. -/
def blockNode : Nat → Nat → Place → Read
  | 0, _, _ => none
  | fuel + 1, outer, p =>
    if p.isDash then
      (blockItems fuel p.column p).map fun (items, q) => (.array items true, q)
    else if (blockName? p).isSome then
      (blockMembers fuel p.column p).map fun (members, q) => (.object members true, q)
    else inlineNode outer p

/-- The items of a list whose dashes stand in the given column. -/
def blockItems : Nat → Nat → Place → Option (List Document × Place)
  | 0, _, _ => none
  | fuel + 1, column, p =>
    let q := p.skip 1
    let item : Read :=
      if isBareLine q then
        match nextContent q with
        | none => none
        | some r =>
          if !r.isEnd && column < r.column then blockNode fuel (column + 1) r
          else some (absent, q)
      else blockNode fuel (column + 1) q.skipBlanks
    match item with
    | none => none
    | some (d, q) =>
      match nextContent q with
      | none => none
      | some r =>
        if r.isEnd || r.column < column then some ([d], q)
        else if r.column = column then
          if r.isDash then (blockItems fuel column r).map fun (ds, q) => (d :: ds, q)
          else some ([d], q)
        else none

/-- The members of an object whose names stand in the given column. -/
def blockMembers : Nat → Nat → Place → Option (List (Option String × Document) × Place)
  | 0, _, _ => none
  | fuel + 1, column, p =>
    match blockName? p with
    | none => none
    | some (name, q) =>
      let value : Read :=
        if isBareLine q then
          match nextContent q with
          | none => none
          | some r =>
            if r.isEnd then some (absent, q)
            else if column < r.column then blockNode fuel (column + 1) r
            else if r.column = column && r.isDash then
              (blockItems fuel column r).map fun (items, q) => (.array items true, q)
            else some (absent, q)
        else inlineNode (column + 1) q.skipBlanks
      match value with
      | none => none
      | some (v, q) =>
        match nextContent q with
        | none => none
        | some r =>
          if r.isEnd || r.column < column then some ([(some name, v)], q)
          else if r.column = column then
            (blockMembers fuel column r).map fun (ms, q) => ((some name, v) :: ms, q)
          else none

end

/-! ### Whole texts -/

/-- The line breaks of a text in one spelling. -/
def unifyBreaks : List Char → List Char
  | '\r' :: '\n' :: rest => '\n' :: unifyBreaks rest
  | '\r' :: rest => '\n' :: unifyBreaks rest
  | c :: rest => c :: unifyBreaks rest
  | [] => []

/-- The characters that may stand in a document. -/
def isAllowed (c : Char) : Bool :=
  let n := c.toNat
  n = 9 || n = 10 || (32 ≤ n && n ≤ 126) || n = 0x85 || (0xA0 ≤ n && n ≠ 0xFFFE && n ≠ 0xFFFF)

/-- Whether nothing but blanks and comments follows the mark at the end of a
document. -/
def endsText (p : Place) : Bool :=
  match p.rest with
  | [] => true
  | '.' :: _ => match nextContent (p.skip 3) with
    | some r => r.rest.isEmpty
    | none => false
  | _ => false

/-- The document behind the mark at its start, if there is one. -/
def body? (p : Place) : Option Document :=
  if p.isEnd then if endsText p then some absent else none
  else match blockNode (4 * p.rest.length + 8) 0 p with
    | none => none
    | some (d, q) =>
      match nextContent q with
      | none => none
      | some r => if r.isEnd && endsText r then some d else none

/-- The document that a text holds. -/
def document? (text : String) : Option Document :=
  let cs := match text.toList with
    | '\uFEFF' :: rest => rest
    | cs => cs
  let cs := unifyBreaks cs
  if !cs.all isAllowed then none
  else
    let start := (Place.nextLine cs.length 0 cs).2
    (overLines cs.length start).bind fun p =>
      match p.column, p.rest with
      | 0, '-' :: '-' :: '-' :: rest =>
        if endsWord rest then
          let q := p.skip 3
          if isBareLine q then (nextContent q).bind body? else body? q.skipBlanks
        else body? p
      | _, _ => body? p

/-- The document that a text holds; it is broken if there is none. -/
def readDocument (text : String) : Document := (document? text).getD .broken

end Yaml

end SmartForm
