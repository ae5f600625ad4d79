/-!
# Blanks and words

The blanks of a text are the characters that the character database calls white
space, those outside the seven-bit range included. `SmartForm.Text.trim` takes
them off both ends of a text and `SmartForm.Text.words` cuts a text at every run
of them.
-/

namespace SmartForm

namespace Text

/-- The blanks. -/
def isBlank (c : Char) : Bool :=
  let n := c.toNat
  (9 ≤ n && n ≤ 13) || n = 32 || n = 0x85 || n = 0xA0 || n = 0x1680 ||
    (0x2000 ≤ n && n ≤ 0x200A) || n = 0x2028 || n = 0x2029 || n = 0x202F || n = 0x205F ||
    n = 0x3000

/-- A text without the blanks at its start. -/
def trimStart (cs : List Char) : List Char := cs.dropWhile isBlank

/-- A text without the blanks at its end. -/
def trimEnd (cs : List Char) : List Char := (cs.reverse.dropWhile isBlank).reverse

/-- A text without the blanks at both ends. -/
def trimChars (cs : List Char) : List Char := trimEnd (trimStart cs)

/-- A text without the blanks at both ends. -/
def trim (s : String) : String := String.ofList (trimChars s.toList)

/-- Whether a text holds nothing but blanks. -/
def isAllBlank (s : String) : Bool := s.toList.all isBlank

/-- The pieces of a text between its blanks. Two neighbouring blanks, and a blank
at an end, have an empty piece beside them. -/
def pieces : List Char → List (List Char)
  | [] => [[]]
  | c :: cs =>
    if isBlank c then [] :: pieces cs
    else match pieces cs with
      | [] => [[c]]
      | p :: ps => (c :: p) :: ps

/-- The words of a text, which are its pieces that are not empty. -/
def wordChars (cs : List Char) : List (List Char) := (pieces cs).filter fun p => !p.isEmpty

/-- The words of a text in order. -/
def words (s : String) : List String := (wordChars s.toList).map String.ofList

/-- Whether two texts are equal when the case of the seven-bit letters is
ignored. -/
def equalIgnoringCase (s t : String) : Bool :=
  s.toList.map Char.toLower = t.toList.map Char.toLower

end Text

end SmartForm
