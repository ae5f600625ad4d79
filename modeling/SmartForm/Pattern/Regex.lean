import SmartForm.Text.Lowercase
import SmartForm.Unicode.Category

/-!
# Regular expressions

A `SmartForm.Regex` is a pattern with all of its flags worked in. It is matched
against positions of a text: `SmartForm.Regex.ends` takes the positions where a
match may start and gives those where it may end. Since nobody asks *which* match
is found, sets of positions are all there is, and a pattern matches a text when
some match starts and ends somewhere in it (`SmartForm.Regex.isMatch`).

Repetitions are not expanded: the image of a set of positions is taken as often as
the counts say, and earlier fixed points end the counting.
-/

namespace SmartForm

/-! ### Syntax -/

/-- What may be asked about a boundary between words. -/
inductive Boundary where
  /-- A word starts or ends here. -/
  | any
  /-- No word starts or ends here. -/
  | none
  /-- A word starts here. -/
  | start
  /-- A word ends here. -/
  | end
  /-- No word character stands before this place. -/
  | startHalf
  /-- No word character stands after this place. -/
  | endHalf
deriving DecidableEq, Repr

/-- A condition on a position. -/
inductive Look where
  /-- The start of the text. -/
  | textStart
  /-- The end of the text. -/
  | textEnd
  /-- The start of a line; with `crlf` a line also ends at a carriage return. -/
  | lineStart (crlf : Bool)
  /-- The end of a line. -/
  | lineEnd (crlf : Bool)
  /-- A boundary between words of all scripts or of seven-bit characters only. -/
  | word (kind : Boundary) (unicode : Bool)
deriving DecidableEq, Repr

/-- A regular expression. -/
inductive Regex where
  /-- The empty text. -/
  | empty
  /-- One character of a set. -/
  | chars (set : CodeSet)
  /-- The empty text at a position that fulfils a condition. -/
  | look (l : Look)
  /-- One expression after the other. -/
  | cat (a b : Regex)
  /-- One expression or the other. -/
  | alt (a b : Regex)
  /-- An expression at least `min` and, where there is a limit, at most `max` times. -/
  | rep (min : Nat) (max : Option Nat) (r : Regex)
  /-- A numbered group. -/
  | group (r : Regex)
deriving DecidableEq, Repr, Inhabited

namespace Regex

/-! ### Conditions on a position -/

/-- The characters of words. -/
def wordCodes : CodeSet :=
  CodeSet.ofRanges (CodeSet.ofTable Property.alphabeticTable
    ++ Category.nonspacingMark.codes ++ Category.spacingMark.codes
    ++ Category.enclosingMark.codes ++ Category.decimalNumber.codes
    ++ Category.connectorPunctuation.codes ++ [(0x200C, 0x200D)])

/-- The characters of words among the seven-bit ones. -/
def asciiWordCodes : CodeSet := [(48, 57), (65, 90), (95, 95), (97, 122)]

/-- Whether a character belongs to a word. -/
def isWordChar (unicode : Bool) (c : Char) : Bool :=
  if c.toNat < 128 then asciiWordCodes.hasChar c else unicode && wordCodes.hasChar c

/-- The character before a position. -/
def before? (text : Array Char) (p : Nat) : Option Char := if p = 0 then none else text[p - 1]?

/-- Whether a character of a word stands before a position, and after it. -/
def wordAround (unicode : Bool) (text : Array Char) (p : Nat) : Bool × Bool :=
  ((before? text p).any (isWordChar unicode), text[p]?.any (isWordChar unicode))

/-- Whether a boundary of the given kind lies at a position. -/
def holdsBoundary (kind : Boundary) (unicode : Bool) (text : Array Char) (p : Nat) : Bool :=
  let (b, a) := wordAround unicode text p
  match kind with
  | .any => b != a
  | .none => b == a
  | .start => !b && a
  | .end => b && !a
  | .startHalf => !b
  | .endHalf => !a

/-- Whether a position fulfils a condition. -/
def holds (text : Array Char) (p : Nat) : Look → Bool
  | .textStart => p = 0
  | .textEnd => p = text.size
  | .lineStart false => p = 0 || before? text p = some '\n'
  | .lineEnd false => p = text.size || text[p]? = some '\n'
  | .lineStart true =>
    p = 0 || before? text p = some '\n' ||
      (before? text p = some '\r' && text[p]? ≠ some '\n')
  | .lineEnd true =>
    p = text.size || text[p]? = some '\r' ||
      (text[p]? = some '\n' && before? text p ≠ some '\r')
  | .word kind unicode => holdsBoundary kind unicode text p

/-! ### Matching -/

/-- The positions of either list, each once. -/
def join (ps qs : List Nat) : List Nat := ps ++ qs.filter fun q => !ps.contains q

/-- The `n`-th image of a set of positions. -/
def power (f : List Nat → List Nat) : Nat → List Nat → List Nat
  | 0, ps => ps
  | n + 1, ps =>
    let qs := f ps
    if qs = ps then ps else power f n qs

/-- The positions reached by at most `n` images, `front` being those reached last. -/
def closure (f : List Nat → List Nat) : Nat → List Nat → List Nat → List Nat
  | 0, reached, _ => reached
  | n + 1, reached, front =>
    let next := (f front).filter fun q => !reached.contains q
    if next.isEmpty then reached else closure f n (reached ++ next) next

/-- Where matches end that start at one of the given positions. -/
def ends (text : Array Char) : Regex → List Nat → List Nat
  | empty, ps => ps
  | chars set, ps => ps.filterMap fun p => if text[p]?.any set.hasChar then some (p + 1) else none
  | look l, ps => ps.filter fun p => holds text p l
  | cat a b, ps => ends text b (ends text a ps)
  | alt a b, ps => join (ends text a ps) (ends text b ps)
  | rep min max r, ps =>
    let first := power (ends text r) min ps
    let more := match max with
      | none => text.size + 1
      | some m => m - min
    closure (ends text r) more first first
  | group r, ps => ends text r ps

/-- Whether the expression matches somewhere in a text. -/
def isMatch (r : Regex) (s : String) : Bool :=
  let text := s.toList.toArray
  !(ends text r (List.range (text.size + 1))).isEmpty

end Regex

end SmartForm
