import SmartForm.Pattern.Classes
import SmartForm.Pattern.Footprint
import SmartForm.Pattern.Nesting
import SmartForm.Text.Blank
import SmartForm.Number.Reader

/-!
# Reading regular expressions

`SmartForm.Regex.parse?` reads a whole pattern. There is no look-around and no
back-reference. A set of flags is in force at every place; a directive such as
`(?i)` changes it up to the end of the enclosing group, branches included, and the
flags are worked into the expression as it is read.

A pattern is refused when it is of the wrong form, when it could match a part of a
character, when it is nested too deeply, and when its compiled form would be too large
(`SmartForm.Regex.isAccepted`).
-/

namespace SmartForm

namespace Regex

/-- The flags in force. -/
structure Flags where
  /-- Letters stand for all letters equal to them up to case. -/
  ignoreCase : Bool := false
  /-- The anchors match at every line. -/
  multiLine : Bool := false
  /-- The point matches the end of a line too. -/
  dotAll : Bool := false
  /-- Lines end in a carriage return and a line feed as well. -/
  crlf : Bool := false
  /-- Classes take in the characters of all scripts. -/
  unicode : Bool := true
  /-- Blanks and comments in the pattern are skipped. -/
  verbose : Bool := false
deriving DecidableEq, Repr, Inhabited

/-- What is known at a place of the pattern: the flags in force and the names of the
groups so far. -/
structure Scope where
  /-- The flags in force. -/
  flags : Flags := {}
  /-- The names of groups. -/
  names : List (List Char) := []
deriving Inhabited

/-! ### Characters -/

/-- The characters with a meaning of their own. -/
def isMeta (c : Char) : Bool := "\\.+*?()|[]\x7b\x7d^$#&-~".toList.contains c

/-- Skips blanks and comments where the flags say so. -/
def skip (verbose : Bool) : List Char → List Char
  | [] => []
  | c :: cs =>
    if !verbose then c :: cs
    else if Text.isBlank c then skip verbose cs
    else if c = '#' then skipComment verbose cs
    else c :: cs
where
  /-- Skips the rest of a comment and what may be skipped behind it. -/
  skipComment (verbose : Bool) : List Char → List Char
    | [] => []
    | c :: cs => if c = '\n' then skip verbose cs else skipComment verbose cs

/-- Whether a mark stands here, which may be missing, and what is left behind it. -/
def optionalMark (mark : Char) : List Char → Bool × List Char
  | [] => (false, [])
  | c :: cs => if c = mark then (true, cs) else (false, c :: cs)

/-- The character with the given code, if there is one. -/
def char? (n : Nat) : Option Char :=
  if n < 0xD800 ∨ (0xDFFF < n ∧ n ≤ CodeSet.lastCode) then some (Char.ofNat n) else none

/-- The digits of an escaped character: `width` of them, or any number of them in
braces. -/
def escapedCode? (width : Nat) (cs : List Char) : Option (Char × List Char) :=
  match cs with
  | '\x7b' :: cs =>
    let ds := cs.takeWhile (· ≠ '\x7d')
    match cs.dropWhile (· ≠ '\x7d') with
    | [] => none
    | _ :: rest => ((Digits.value? 16 ds).bind char?).map fun c => (c, rest)
  | _ =>
    let ds := cs.take width
    if ds.length = width then
      ((Digits.value? 16 ds).bind char?).map fun c => (c, cs.drop width)
    else none

/-- The control characters with an escape of their own. -/
def controlEscape? (c : Char) : Option Char :=
  [('a', '\x07'), ('f', '\x0c'), ('t', '\t'), ('n', '\n'), ('r', '\r'), ('v', '\x0b')].lookup c

/-! ### Escapes -/

/-- What stands for one place of a pattern. -/
inductive Atom where
  /-- A character. -/
  | char (c : Char)
  /-- A byte outside the seven-bit range, which is no character. -/
  | byte
  /-- A class. -/
  | set (s : CodeSet)
  /-- A condition. -/
  | look (l : Look)

/-- A class as the flags want it: closed up to case where case is ignored, negated
after that. Without the flag for all scripts only seven-bit characters are left,
and a class that would need more is refused. -/
def finishSet (flags : Flags) (negated : Bool) (s : CodeSet) : Option CodeSet :=
  if flags.unicode then
    let s := if flags.ignoreCase then Casing.close s else s
    some (if negated then s.complement else s)
  else
    let s := if flags.ignoreCase then
        let lower := (s.inter [(65, 90)]).map fun r => (r.1 + 32, r.2 + 32)
        let upper := (s.inter [(97, 122)]).map fun r => (r.1 - 32, r.2 - 32)
        s.union (lower ++ upper)
      else s
    if negated || !s.isAscii then none else some s

/-- The class with the given name between braces, which may have a value. -/
def propertyClass? (flags : Flags) (negated : Bool) (name : List Char) : Option CodeSet :=
  let split (mark : Char) : Option (List Char × List Char) :=
    match name.dropWhile (· ≠ mark) with
    | [] => none
    | _ :: value => some (name.takeWhile (· ≠ mark), value)
  match split '!' with
  | some (n, '=' :: v) => (CharClass.ofNameAndValue? n v).bind (finishSet flags !negated)
  | _ =>
    match (split ':').orElse fun _ => split '=' with
    | some (n, v) => (CharClass.ofNameAndValue? n v).bind (finishSet flags negated)
    | none => (CharClass.ofName? name).bind (finishSet flags negated)

/-- The class behind `\p` or `\P`, whose letter has been read. -/
def property? (flags : Flags) (negated : Bool) (cs : List Char) :
    Option (CodeSet × List Char) :=
  if !flags.unicode then none
  else
    match skip flags.verbose cs with
    | [] => none
    | '\x7b' :: cs =>
      match cs.dropWhile (· ≠ '\x7d') with
      | [] => none
      | _ :: rest =>
        (propertyClass? flags negated (cs.takeWhile (· ≠ '\x7d'))).map fun s => (s, rest)
    | c :: rest =>
      if c = '\\' then none
      else ((CharClass.ofName? [c]).bind (finishSet flags negated)).map fun s => (s, rest)

/-- The kinds of boundary that have a name. -/
def boundaryName? (name : List Char) : Option Boundary :=
  [("start", Boundary.start), ("end", .end), ("start-half", .startHalf),
   ("end-half", .endHalf)].lookup (String.ofList name)

/-- A boundary behind `\b`, which may have a name in braces. Braces whose content
does not start like a name belong to a repetition. -/
def boundary? (flags : Flags) (cs : List Char) : Option (Look × List Char) :=
  let isNameChar := fun (c : Char) => c.isAlpha || c = '-'
  match cs with
  | '\x7b' :: inner =>
    let inner := skip flags.verbose inner
    match inner with
    | [] => none
    | c :: _ =>
      if isNameChar c then
        match inner.dropWhile isNameChar with
        | '\x7d' :: rest =>
          (boundaryName? (inner.takeWhile isNameChar)).map fun k => (.word k flags.unicode, rest)
        | _ => none
      else some (.word .any flags.unicode, cs)
  | _ => some (.word .any flags.unicode, cs)

/-- What an escape stands for; its backslash has been read. -/
def escape? (flags : Flags) : List Char → Option (Atom × List Char)
  | [] => none
  | c :: cs =>
    if c.isDigit then none
    else if c = 'x' then
      match escapedCode? 2 (skip flags.verbose cs) with
      | some (d, rest) =>
        let fixed := match skip flags.verbose cs with
          | '\x7b' :: _ => false
          | _ => true
        if !flags.unicode && fixed && 128 ≤ d.toNat then some (.byte, rest)
        else some (.char d, rest)
      | none => none
    else if c = 'u' then
      (escapedCode? 4 (skip flags.verbose cs)).map fun (d, rest) => (.char d, rest)
    else if c = 'U' then
      (escapedCode? 8 (skip flags.verbose cs)).map fun (d, rest) => (.char d, rest)
    else if c = 'p' ∨ c = 'P' then
      (property? flags (c = 'P') cs).map fun (s, rest) => (.set s, rest)
    else match CharClass.ofLetter? flags.unicode c.toLower with
      | some s =>
        if c.isLower then some (.set s, cs)
        else if flags.unicode then some (.set s.complement, cs)
        else none
      | none =>
        if isMeta c then some (.char c, cs)
        else if c = '<' then some (.look (.word .start flags.unicode), cs)
        else if c = '>' then some (.look (.word .end flags.unicode), cs)
        else if c = 'b' then (boundary? flags cs).map fun (l, rest) => (.look l, rest)
        else if c = 'B' then some (.look (.word .none flags.unicode), cs)
        else if c = 'A' then some (.look .textStart, cs)
        else if c = 'z' then some (.look .textEnd, cs)
        else match controlEscape? c with
          | some d => some (.char d, cs)
          | none => if c.toNat < 128 && !c.isAlpha then some (.char c, cs) else none

/-! ### Bracketed classes -/

/-- One end of a range, or an item of its own. -/
def setAtom? (flags : Flags) : List Char → Option (Atom × List Char)
  | [] => none
  | '\\' :: cs => escape? flags cs
  | c :: cs => some (.char c, cs)

/-- A class of the form `[:name:]` whose opening bracket has been read. -/
def bracketName? (flags : Flags) (cs : List Char) : Option (Option CodeSet × List Char) :=
  match cs with
  | ':' :: cs =>
    let (negated, cs) := optionalMark '^' cs
    match cs.dropWhile (· ≠ ':') with
    | ':' :: ']' :: rest =>
      (CharClass.ofBracketName? (String.ofList (cs.takeWhile (· ≠ ':')))).map fun s =>
        (finishSet flags negated s, rest)
    | _ => none
  | _ => none

/-- Whether a character of a class is admitted by the flags. -/
def admits (flags : Flags) (c : Char) : Bool := flags.unicode || c.toNat < 128

/-- What an item of its own stands for. -/
def singleItem? (flags : Flags) : Atom → Option CodeSet
  | .char c => if admits flags c then some (CodeSet.single c) else none
  | .set s => some s
  | _ => none

/-- What a range from an item up to a character stands for. -/
def rangeItem? (flags : Flags) (first : Atom) (b : Char) : Option CodeSet :=
  match first with
  | .char a =>
    if a.toNat ≤ b.toNat && admits flags a && admits flags b then some [(a.toNat, b.toNat)]
    else none
  | _ => none

/-- An item of a class: a character, a class or a range. -/
def setItem? (flags : Flags) (cs : List Char) : Option (CodeSet × List Char) :=
  match setAtom? flags cs with
  | none => none
  | some (first, rest) =>
    let rest := skip flags.verbose rest
    let alone := (singleItem? flags first).map fun s => (s, rest)
    match rest with
    | '-' :: after =>
      match skip flags.verbose after with
      | [] => none
      | ']' :: _ => alone
      | '-' :: _ => alone
      | after =>
        match setAtom? flags after with
        | some (.char b, rest) => (rangeItem? flags first b).map fun s => (s, rest)
        | _ => none
    | _ => alone

/-- The operations between the operands of a class. -/
inductive SetOp where
  /-- What both operands have. -/
  | inter
  /-- What only the first one has. -/
  | diff
  /-- What exactly one of them has. -/
  | symmDiff

/-- The operand that the items of a class make. -/
def operand (items : List (Nested CodeSet)) : Nested CodeSet :=
  ⟨CodeSet.ofRanges (items.flatMap Nested.val), Nested.depthOf items⟩

/-- Joins an operand to what has been computed from those before it. Where case is
ignored both sides are closed first. -/
def applyOp (flags : Flags) (before : Option (Nested CodeSet × SetOp)) (s : Nested CodeSet) :
    Option (Nested CodeSet) :=
  match before with
  | none => some s
  | some (a, op) =>
    match finishSet flags false a.val, finishSet flags false s.val with
    | some x, some y =>
      some ⟨match op with
        | .inter => x.inter y
        | .diff => x.diff y
        | .symmDiff => x.symmDiff y, max a.depth s.depth + 1⟩
    | _, _ => none

/-- How many hyphens follow, `n` having been read, and what is left behind them. -/
def hyphens (verbose : Bool) (n : Nat) : List Char → Nat × List Char
  | [] => (n, [])
  | c :: cs =>
    if c = '-' then hyphens verbose (n + 1) cs
    else if verbose && Text.isBlank c then hyphens verbose n cs
    else if verbose && c = '#' then afterComment verbose n cs
    else (n, c :: cs)
where
  /-- The hyphens behind the rest of a comment. -/
  afterComment (verbose : Bool) (n : Nat) : List Char → Nat × List Char
    | [] => (n, [])
    | c :: cs => if c = '\n' then hyphens verbose n cs else afterComment verbose n cs

/-- The hyphens at the start of a class stand for themselves, and without them so does
a closing bracket. -/
def setStart (flags : Flags) (cs : List Char) : List (Nested CodeSet) × List Char :=
  match cs with
  | ']' :: rest => ([⟨CodeSet.single ']', 0⟩], skip flags.verbose rest)
  | '-' :: rest =>
    let (n, rest) := hyphens flags.verbose 1 rest
    (List.replicate n ⟨CodeSet.single '-', 0⟩, rest)
  | _ => ([], cs)

/-- How a class opens whose bracket has been read: whether it is negated, and what it
starts with. -/
def setOpening (flags : Flags) (cs : List Char) :
    Bool × List (Nested CodeSet) × List Char :=
  let (negated, cs) := optionalMark '^' (skip flags.verbose cs)
  (negated, setStart flags (if negated then skip flags.verbose cs else cs))

/-- The rest of a class: `before` is the operand before the last operation, and
`done` the items that the current operand has so far. -/
def setRest? (fuel : Nat) (flags : Flags) (negated : Bool)
    (before : Option (Nested CodeSet × SetOp)) (done : List (Nested CodeSet))
    (cs : List Char) : Option (Nested CodeSet × List Char) :=
  match fuel with
  | 0 => none
  | fuel + 1 =>
    let next := fun (op : SetOp) (cs : List Char) =>
      (applyOp flags before (operand done)).bind fun s =>
        setRest? fuel flags negated (some (s, op)) [] cs
    match skip flags.verbose cs with
    | [] => none
    | ']' :: rest =>
      ((applyOp flags before (operand done)).bind fun s =>
        (finishSet flags negated s.val).map fun c => Nested.mk c (s.depth + 1)).map
          fun s => (s, rest)
    | '&' :: '&' :: rest => next .inter rest
    | '-' :: '-' :: rest => next .diff rest
    | '~' :: '~' :: rest => next .symmDiff rest
    | '[' :: rest =>
      match bracketName? flags rest with
      | some (none, _) => none
      | some (some s, rest) => setRest? fuel flags negated before (done ++ [⟨s, 0⟩]) rest
      | none =>
        let (inverse, start, inner) := setOpening flags rest
        match setRest? fuel flags inverse none start inner with
        | some (s, rest) => setRest? fuel flags negated before (done ++ [s]) rest
        | none => none
    | cs =>
      match setItem? flags cs with
      | some (s, rest) => setRest? fuel flags negated before (done ++ [⟨s, 0⟩]) rest
      | none => none

/-- A class whose opening bracket has been read. -/
def bracketed? (flags : Flags) (cs : List Char) : Option (Nested CodeSet × List Char) :=
  let (negated, start, inner) := setOpening flags cs
  setRest? (2 * inner.length + 2) flags negated none start inner

/-! ### Repetitions -/

/-- A number that fits into thirty-two bits, with blanks around it. -/
def count? (cs : List Char) : Option (Option Nat × List Char) :=
  let cs := Text.trimStart cs
  let ds := cs.takeWhile Char.isDigit
  let rest := Text.trimStart (cs.dropWhile Char.isDigit)
  if ds.isEmpty then some (none, rest)
  else if Digits.value ds < Nat.pow 2 32 then some (some (Digits.value ds), rest)
  else none

/-- The counts of a repetition whose opening brace has been read. -/
def counts? (verbose : Bool) (cs : List Char) : Option (Nat × Option Nat × List Char) :=
  match count? cs with
  | some (some low, '\x7d' :: rest) => some (low, some low, rest)
  | some (some low, ',' :: rest) =>
    match skip verbose rest with
    | '\x7d' :: rest => some (low, none, rest)
    | rest =>
      match count? rest with
      | some (some high, '\x7d' :: rest) =>
        if low ≤ high then some (low, some high, rest) else none
      | _ => none
  | _ => none

/-- The counts of a repetition, if one starts here: its bounds and what follows it,
with the mark of reluctance skipped. -/
def repetition? (verbose : Bool) (cs : List Char) :
    Option (Option (Nat × Option Nat × List Char)) :=
  let found : Option (Option (Nat × Option Nat × List Char)) := match cs with
    | '*' :: rest => some (some (0, none, rest))
    | '+' :: rest => some (some (1, none, rest))
    | '?' :: rest => some (some (0, some 1, rest))
    | '\x7b' :: rest => (counts? verbose rest).map some
    | _ => some none
  found.map fun f => f.map fun (low, high, rest) => (low, high, (optionalMark '?' rest).2)

/-! ### Groups -/

/-- The flags after one of them, named by its letter, has been set or cleared. -/
def setFlag? (flags : Flags) (on : Bool) (c : Char) : Option Flags :=
  if c = 'i' then some { flags with ignoreCase := on }
  else if c = 'm' then some { flags with multiLine := on }
  else if c = 's' then some { flags with dotAll := on }
  else if c = 'U' then some flags
  else if c = 'u' then some { flags with unicode := on }
  else if c = 'R' then some { flags with crlf := on }
  else if c = 'x' then some { flags with verbose := on }
  else none

/-- The flags that a directive or a group sets, up to the character that ends them.
`met` holds the flags met so far and `negative` tells on which side of the hyphen
they stand. -/
def readFlags? (flags : Flags) (met : List Char) (negative dangling : Bool) :
    List Char → Option (Flags × List Char × Char × List Char)
  | [] => none
  | c :: cs =>
    if c = ':' ∨ c = ')' then if dangling then none else some (flags, met, c, cs)
    else if met.contains c then none
    else if c = '-' then readFlags? flags (c :: met) true true cs
    else
      match setFlag? flags (!negative) c with
      | some flags => readFlags? flags (c :: met) negative false cs
      | none => none

/-- Whether a character may stand in the name of a group. -/
def isNameChar (first : Bool) (c : Char) : Bool :=
  let isLetter := if c.toNat < 128 then c.isAlpha else wordCodes.hasChar c
  c = '_' || isLetter || (!first && (c = '.' || c = '[' || c = ']' || c.isDigit))

/-- The name of a group, whose opening bracket has been read. -/
def groupName? (names : List (List Char)) (cs : List Char) :
    Option (List Char × List Char) :=
  let name := cs.takeWhile (· ≠ '>')
  match cs.dropWhile (· ≠ '>'), name with
  | _ :: rest, c :: more =>
    if isNameChar true c && more.all (isNameChar false) && !names.contains name then
      some (name, rest)
    else none
  | _, _ => none

/-- How a group opens. -/
inductive Opening where
  /-- A directive, which is no group. -/
  | directive (flags : Flags)
  /-- A group without a number, with the flags inside it. -/
  | plain (flags : Flags)
  /-- A group with a number. -/
  | numbered
  /-- A group with a number and a name. -/
  | named (name : List Char)

namespace Opening

/-- What is known inside a group that opens so. -/
def scope (outer : Scope) : Opening → Scope
  | directive flags => { outer with flags := flags }
  | plain flags => { outer with flags := flags }
  | numbered => outer
  | named name => { outer with names := name :: outer.names }

/-- The expression of a group that opens so. -/
def expression (r : Regex) : Opening → Regex
  | directive _ => r
  | plain _ => r
  | numbered => .group r
  | named _ => .group r

end Opening

/-- How a group opens whose bracket has been read. -/
def opening? (scope : Scope) (cs : List Char) : Option (Opening × List Char) :=
  match cs with
  | '?' :: 'P' :: '<' :: rest =>
    (groupName? scope.names rest).map fun (name, rest) => (.named name, rest)
  | '?' :: '<' :: rest =>
    (groupName? scope.names rest).map fun (name, rest) => (.named name, rest)
  | '?' :: rest =>
    match readFlags? scope.flags [] false false rest with
    | some (flags, met, ')', rest) => if met.isEmpty then none else some (.directive flags, rest)
    | some (flags, _, _, rest) => some (.plain flags, rest)
    | none => none
  | rest => some (.numbered, rest)

/-! ### Whole expressions -/

/-- The expression of a character: under the flag all characters equal to it up to
case. -/
def ofChar (flags : Flags) (c : Char) : Regex :=
  if flags.ignoreCase && admits flags c then
    .chars ((finishSet flags false (CodeSet.single c)).getD (CodeSet.single c))
  else .chars (CodeSet.single c)

/-- The expression of the point. -/
def dot? (flags : Flags) : Option Regex :=
  if !flags.unicode then none
  else if flags.dotAll then some (.chars CodeSet.full)
  else if flags.crlf then some (.chars (CodeSet.complement [(10, 10), (13, 13)]))
  else some (.chars (CodeSet.complement [(10, 10)]))

/-- The expression of an atom. -/
def ofAtom? (flags : Flags) : Atom → Option Regex
  | .char c => some (ofChar flags c)
  | .byte => none
  | .set s => some (.chars s)
  | .look l => some (.look l)

/-- An atom at the start of a pattern that opens no group. -/
def atom? (flags : Flags) : List Char → Option (Nested Regex × List Char)
  | [] => none
  | '\\' :: cs =>
    match escape? flags cs with
    | some (a, rest) => (ofAtom? flags a).map fun r => (⟨r, 0⟩, rest)
    | none => none
  | '[' :: cs => (bracketed? flags cs).map fun (s, rest) => (⟨.chars s.val, s.depth⟩, rest)
  | '.' :: cs => (dot? flags).map fun r => (⟨r, 0⟩, cs)
  | '^' :: cs =>
    some (⟨.look (if flags.multiLine then .lineStart flags.crlf else .textStart), 0⟩, cs)
  | '$' :: cs =>
    some (⟨.look (if flags.multiLine then .lineEnd flags.crlf else .textEnd), 0⟩, cs)
  | c :: cs => some (⟨ofChar flags c, 0⟩, cs)

/-- What comes next in a branch: a directive, a group, the counts of what has just been
read, or an atom. What has been read so far is `done`, and `group` reads the branches of
a group. -/
def item? (group : Scope → List Char → Option (List (Nested Regex) × Scope × List Char))
    (scope : Scope) (done : List (Nested (Option Regex))) (cs : List Char) :
    Option (Scope × List (Nested (Option Regex)) × List Char) :=
  match cs with
  | '(' :: rest =>
    match opening? scope (skip scope.flags.verbose rest) with
    | none => none
    | some (.directive flags, rest) =>
      some ({ scope with flags := flags }, ⟨none, 0⟩ :: done, rest)
    | some (o, rest) =>
      match group (o.scope scope) rest with
      | some (rs, inner, ')' :: rest) =>
        some ({ scope with names := inner.names },
          (alternation rs).wrap (fun r => some (o.expression r)) :: done, rest)
      | _ => none
  | cs =>
    match repetition? scope.flags.verbose cs with
    | none => none
    | some (some (low, high, rest)) =>
      match done with
      | ⟨some r, depth⟩ :: done =>
        some (scope, ⟨some (.rep low high r), depth + 1⟩ :: done, rest)
      | _ => none
    | some none =>
      (atom? scope.flags cs).map fun (r, rest) => (scope, ⟨some r.val, r.depth⟩ :: done, rest)

mutual

/-- Branches up to the end of the pattern or of the group. -/
def branches? : Nat → Scope → List Char → Option (List (Nested Regex) × Scope × List Char)
  | 0, _, _ => none
  | fuel + 1, scope, cs =>
    match branch? fuel scope [] cs with
    | none => none
    | some (r, scope, '|' :: rest) =>
      (branches? fuel scope rest).map fun (rs, scope, rest) => (r :: rs, scope, rest)
    | some (r, scope, rest) => some ([r], scope, rest)

/-- A branch, of which `done` has been read, up to the mark that ends it. -/
def branch? : Nat → Scope → List (Nested (Option Regex)) → List Char →
    Option (Nested Regex × Scope × List Char)
  | 0, _, _, _ => none
  | fuel + 1, scope, done, cs =>
    match skip scope.flags.verbose cs with
    | [] => some (sequence done, scope, [])
    | ')' :: rest => some (sequence done, scope, ')' :: rest)
    | '|' :: rest => some (sequence done, scope, '|' :: rest)
    | cs =>
      match item? (branches? fuel) scope done cs with
      | some (scope, done, rest) => branch? fuel scope done rest
      | none => none

end

/-- Reads a whole pattern, whatever its depth and its size. -/
def ofPattern? (pattern : String) : Option (Nested Regex) :=
  let cs := pattern.toList
  match branches? (2 * cs.length + 2) {} cs with
  | some (rs, _, []) => some (alternation rs)
  | _ => none

/-- Whether a pattern is neither nested too deeply nor too large. -/
def isAccepted (r : Nested Regex) : Bool := r.depth ≤ nestLimit && r.val.isCompilable

/-- Reads a whole pattern of acceptable depth and size. -/
def parse? (pattern : String) : Option Regex :=
  ((ofPattern? pattern).filter isAccepted).map Nested.val

end Regex

end SmartForm
