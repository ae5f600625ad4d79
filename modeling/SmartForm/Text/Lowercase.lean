import SmartForm.Unicode.Casing
import SmartForm.Unicode.Property

/-!
# Lower case of texts

`SmartForm.Text.lowercase` puts every character of a text in lower case. Two
characters need more than a look at themselves: the capital i with a dot above
becomes two characters, and a capital sigma becomes the final form of the letter
at the end of a word.

The end of a word is seen from the letters around, characters that casing looks
through being skipped on both sides. So the lower case of a part of a text need
not be a part of the lower case of the text.
-/

namespace SmartForm

namespace Text

/-- The characters that take part in casing. -/
def casedCodes : CodeSet := CodeSet.ofTable Property.casedTable

/-- The characters that casing looks through. -/
def caseIgnorableCodes : CodeSet := CodeSet.ofTable Property.caseIgnorableTable

/-- Whether the first character that casing does not look through takes part in
casing. -/
def facesCased (cs : List Char) : Bool :=
  match cs.dropWhile caseIgnorableCodes.hasChar with
  | [] => false
  | c :: _ => casedCodes.hasChar c

/-- The capital sigma. -/
def capitalSigma : Char := 'Σ'

/-- The lower case of a capital sigma with the given characters before it, the
nearest first, and after it. -/
def sigmaBetween (before after : List Char) : Char :=
  if facesCased before && !facesCased after then 'ς' else 'σ'

/-- The lower case of any other character. -/
def lowerChar (c : Char) : List Char :=
  if c.toNat < 128 then [c.toLower]
  else if c.toNat = Casing.dottedCapitalI then ['i', Char.ofNat 0x307]
  else [Char.ofNat (Casing.lowerCode c.toNat)]

/-- The lower case of the rest of a text, `before` being what has been passed, in
reverse. -/
def lowerFrom (before : List Char) : List Char → List Char
  | [] => []
  | c :: rest =>
    (if c = capitalSigma then [sigmaBetween before rest] else lowerChar c)
      ++ lowerFrom (c :: before) rest

/-- A text in lower case. -/
def lowerChars (cs : List Char) : List Char := lowerFrom [] cs

/-- A text in lower case. -/
def lowercase (s : String) : String := String.ofList (lowerChars s.toList)

end Text

end SmartForm
