import SmartForm.Unicode.Category
import SmartForm.Unicode.Property

/-!
# Texts shown in messages

A message that names a text shows it in quotes, with everything escaped that
would not be seen: control characters, separators other than the space,
unassigned and private characters, and marks that would join the character before
them.
-/

namespace SmartForm

namespace Text

/-- The categories whose characters are shown as they are. -/
def visibleCategories : List Category :=
  Category.all.filter fun c =>
    !([.control, .format, .privateUse, .spaceSeparator, .lineSeparator,
      .paragraphSeparator] : List Category).contains c

/-- The characters that are shown as they are. -/
def visibleCodes : CodeSet :=
  (CodeSet.ofRanges (visibleCategories.flatMap Category.codes)).diff
    (CodeSet.ofTable Property.graphemeExtendTable)

/-- A character by its number, to the base sixteen. -/
def numbered (c : Char) : List Char :=
  '\\' :: 'u' :: '\x7b' :: Nat.toDigits 16 c.toNat ++ ['\x7d']

/-- A character as a message shows it. -/
def shownChar (c : Char) : List Char :=
  if c = '"' then ['\\', '"']
  else if c = '\\' then ['\\', '\\']
  else if c = '\n' then ['\\', 'n']
  else if c = '\r' then ['\\', 'r']
  else if c = '\t' then ['\\', 't']
  else if c.toNat = 0 then ['\\', '0']
  else if c.toNat < 128 then if c.toNat < 32 ∨ c.toNat = 127 then numbered c else [c]
  else if visibleCodes.hasChar c then [c]
  else numbered c

/-- A text as a message shows it. -/
def shown (s : String) : String :=
  String.ofList ('"' :: s.toList.flatMap shownChar ++ ['"'])

end Text

end SmartForm
