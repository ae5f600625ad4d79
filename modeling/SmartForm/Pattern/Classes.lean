import SmartForm.Pattern.Regex
import SmartForm.Unicode.Script

/-!
# Named character classes

The classes that a pattern may name: the three one-letter classes, the classes of
the form `[:alpha:]`, and the properties of the character database after `\p`.
The names of properties are compared without regard to case, blanks, hyphens,
underscores and a leading `is`.
-/

namespace SmartForm

namespace CharClass

/-! ### One-letter classes and bracket names -/

/-- The blanks among all characters. -/
def blankCodes : CodeSet :=
  [(9, 13), (32, 32), (0x85, 0x85), (0xA0, 0xA0), (0x1680, 0x1680), (0x2000, 0x200A),
   (0x2028, 0x2029), (0x202F, 0x202F), (0x205F, 0x205F), (0x3000, 0x3000)]

/-- The class of one of the letters `d`, `s` and `w`. -/
def ofLetter? (unicode : Bool) (c : Char) : Option CodeSet :=
  if c = 'd' then some (if unicode then Category.decimalNumber.codes else [(48, 57)])
  else if c = 's' then some (if unicode then blankCodes else [(9, 13), (32, 32)])
  else if c = 'w' then some (if unicode then Regex.wordCodes else Regex.asciiWordCodes)
  else none

/-- The class with the given name between brackets and colons. -/
def ofBracketName? (name : String) : Option CodeSet :=
  [("alnum", [(48, 57), (65, 90), (97, 122)]),
   ("alpha", [(65, 90), (97, 122)]),
   ("ascii", [(0, 127)]),
   ("blank", [(9, 9), (32, 32)]),
   ("cntrl", [(0, 31), (127, 127)]),
   ("digit", [(48, 57)]),
   ("graph", [(33, 126)]),
   ("lower", [(97, 122)]),
   ("print", [(32, 126)]),
   ("punct", [(33, 47), (58, 64), (91, 96), (123, 126)]),
   ("space", [(9, 13), (32, 32)]),
   ("upper", [(65, 90)]),
   ("word", [(48, 57), (65, 90), (95, 95), (97, 122)]),
   ("xdigit", [(48, 57), (65, 70), (97, 102)])].lookup name

/-! ### Properties -/

/-- A name without case, blanks, hyphens, underscores and a leading `is`. -/
def plainName (cs : List Char) : String :=
  let low := cs.map Char.toLower
  let rest := match low with
    | 'i' :: 's' :: rest => rest
    | _ => low
  let kept := rest.filter fun c =>
    c ≠ ' ' && c ≠ '_' && c ≠ '-' && c.toNat < 128
  if rest.length < low.length && kept = ['c'] then "isc" else String.ofList kept

/-- The groups of categories with their names. -/
def categoryGroups : List (List String × List Category) :=
  [(["l", "letter"],
    [.uppercaseLetter, .lowercaseLetter, .titlecaseLetter, .modifierLetter, .otherLetter]),
   (["lc", "casedletter"], [.uppercaseLetter, .lowercaseLetter, .titlecaseLetter]),
   (["m", "mark", "combiningmark"], [.nonspacingMark, .spacingMark, .enclosingMark]),
   (["n", "number"], [.decimalNumber, .letterNumber, .otherNumber]),
   (["nd", "decimalnumber", "digit"], [.decimalNumber]),
   (["p", "punctuation", "punct"],
    [.connectorPunctuation, .dashPunctuation, .openPunctuation, .closePunctuation,
     .initialPunctuation, .finalPunctuation, .otherPunctuation]),
   (["s", "symbol"], [.mathSymbol, .currencySymbol, .modifierSymbol, .otherSymbol]),
   (["z", "separator"], [.spaceSeparator, .lineSeparator, .paragraphSeparator]),
   (["cc", "control", "cntrl"], [.control])]

/-- The characters of some categories. -/
def ofCategories (cs : List Category) : CodeSet := CodeSet.ofRanges (cs.flatMap Category.codes)

/-- The assigned characters. -/
def assignedCodes : CodeSet := ofCategories Category.all

/-- The characters of the general category, or group of categories, with the given
name. -/
def ofCategoryName? (name : String) : Option CodeSet :=
  if name = "any" then some CodeSet.full
  else if name = "ascii" then some [(0, 127)]
  else if name = "assigned" then some assignedCodes
  else if name = "cn" ∨ name = "unassigned" then some assignedCodes.complement
  else if name = "c" ∨ name = "other" then
    some (ofCategories (Category.all.filter fun c =>
      !([.control, .format, .privateUse] : List Category).contains c)).complement
  else match categoryGroups.find? fun g => g.1.contains name with
    | some g => some (ofCategories g.2)
    | none =>
      (Category.all.find? fun c =>
        plainName c.shortName.toList = name || plainName c.longName.toList = name).map
          Category.codes

/-- The characters of the script with the given name. -/
def ofScriptName? (name : String) : Option CodeSet :=
  (Script.find? name).map CodeSet.ofTable

/-- The class that a name alone stands for: a property with two values, a general
category or a script. Three short names mean a category although a property has
them as well. -/
def ofName? (cs : List Char) : Option CodeSet :=
  let name := plainName cs
  let property :=
    if name = "cf" ∨ name = "sc" ∨ name = "lc" then none else Property.find? name
  match property with
  | some table => some (CodeSet.ofTable table)
  | none => (ofCategoryName? name).orElse fun _ => ofScriptName? name

/-- The class that a name with a value stands for. -/
def ofNameAndValue? (name value : List Char) : Option CodeSet :=
  let n := plainName name
  let v := plainName value
  if n = "gc" ∨ n = "generalcategory" then ofCategoryName? v
  else if n = "sc" ∨ n = "script" then ofScriptName? v
  else none

end CharClass

end SmartForm
