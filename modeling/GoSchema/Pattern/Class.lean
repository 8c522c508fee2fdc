import GoSchema.Pattern.Basic
import GoSchema.Text.Fold
import GoSchema.Text.Property
import GoSchema.Text.Script

/-!
# Sets of characters in patterns

The sets and conditions that a pattern can name: properties of characters, the classes of ASCII, and
the edges of lines and words.
-/

namespace GoSchema.Pattern

open Text

/-- A set of characters. -/
abbrev CharSet := Char → Bool

namespace CharSet

/-- The characters from one to another. -/
def range (low high : Char) : CharSet := fun c => low ≤ c && c ≤ high

/-- The characters that are not in a set. -/
def complement (s : CharSet) : CharSet := fun c => !s c

/-- The characters with a case variant in a set. -/
def foldCase (s : CharSet) : CharSet := fun c => (caseVariants c).any s

/-- The characters with an ASCII case variant in a set. -/
def foldAsciiCase (s : CharSet) : CharSet := fun c => s c || s c.toLower || s c.toUpper

/-- The characters that belong to one of some general categories. -/
def ofCategories (ks : List Category) : CharSet := fun c => ks.any (·.includes c)

/-- White space among the ASCII characters. -/
def isAsciiSpace (c : Char) : Bool :=
  c == ' ' || c == '\t' || c == '\n' || c == '\r' || c == '\x0b' || c == '\x0c'

/-- A character of a word among the ASCII characters. -/
def isAsciiWord (c : Char) : Bool := c.isAlphanum || c == '_'

/-- A hexadecimal digit among the ASCII characters. -/
def isAsciiHexDigit (c : Char) : Bool := c.isDigit || range 'a' 'f' c || range 'A' 'F' c

/-- A hexadecimal digit, of full width or not. -/
def isHexDigit (c : Char) : Bool :=
  isAsciiHexDigit c || range '\uff10' '\uff19' c || range '\uff21' '\uff26' c ||
    range '\uff41' '\uff46' c

/-- A visible ASCII character. -/
def isAsciiGraph : CharSet := range '!' '~'

/-- The ASCII classes by name. -/
def asciiClasses : List (String × CharSet) :=
  [("alnum", Char.isAlphanum), ("alpha", Char.isAlpha), ("ascii", range '\x00' '\x7f'),
   ("blank", fun c => c == ' ' || c == '\t'),
   ("cntrl", fun c => c.toNat < 0x20 || c == '\x7f'), ("digit", Char.isDigit),
   ("graph", isAsciiGraph), ("lower", Char.isLower), ("print", range ' ' '~'),
   ("punct", fun c => isAsciiGraph c && !c.isAlphanum), ("space", isAsciiSpace),
   ("upper", Char.isUpper), ("word", isAsciiWord),
   ("xdigit", isAsciiHexDigit)]

/-! ## Properties by name -/

/-- General categories and groups of them, by their names in small letters without separators. -/
def categoryNames : List (List String × List Category) :=
  [(["lu", "uppercaseletter"], [.uppercaseLetter]),
   (["ll", "lowercaseletter"], [.lowercaseLetter]),
   (["lt", "titlecaseletter"], [.titlecaseLetter]),
   (["lm", "modifierletter"], [.modifierLetter]),
   (["lo", "otherletter"], [.otherLetter]),
   (["mn", "nonspacingmark"], [.nonspacingMark]),
   (["mc", "spacingmark"], [.spacingMark]),
   (["me", "enclosingmark"], [.enclosingMark]),
   (["nd", "decimalnumber", "digit"], [.decimalNumber]),
   (["nl", "letternumber"], [.letterNumber]),
   (["no", "othernumber"], [.otherNumber]),
   (["pc", "connectorpunctuation"], [.connectorPunctuation]),
   (["pd", "dashpunctuation"], [.dashPunctuation]),
   (["ps", "openpunctuation"], [.openPunctuation]),
   (["pe", "closepunctuation"], [.closePunctuation]),
   (["pi", "initialpunctuation"], [.initialPunctuation]),
   (["pf", "finalpunctuation"], [.finalPunctuation]),
   (["po", "otherpunctuation"], [.otherPunctuation]),
   (["sm", "mathsymbol"], [.mathSymbol]),
   (["sc", "currencysymbol"], [.currencySymbol]),
   (["sk", "modifiersymbol"], [.modifierSymbol]),
   (["so", "othersymbol"], [.otherSymbol]),
   (["zs", "spaceseparator"], [.spaceSeparator]),
   (["zl", "lineseparator"], [.lineSeparator]),
   (["zp", "paragraphseparator"], [.paragraphSeparator]),
   (["cc", "control", "cntrl"], [.control]),
   (["cf", "format"], [.format]),
   (["cs", "surrogate"], [.surrogate]),
   (["co", "privateuse"], [.privateUse]),
   (["cn", "unassigned"], [.unassigned]),
   (["l", "letter"], Category.letters),
   (["lc", "casedletter"], Category.casedLetters),
   (["m", "mark", "combiningmark"], Category.marks),
   (["n", "number"], Category.numbers),
   (["p", "punctuation", "punct"], Category.punctuation),
   (["s", "symbol"], Category.symbols),
   (["z", "separator"], Category.separators),
   (["c", "other"], Category.others)]

/-- The set of a general category or of a group of them. -/
def ofCategoryName? (name : String) : Option CharSet :=
  match name with
  | "any" => some fun _ => true
  | "assigned" => some (complement Category.unassigned.includes)
  | "ascii" => some (range '\x00' '\x7f')
  | _ => (categoryNames.find? fun entry => entry.1.contains name).map fun entry => ofCategories entry.2

/-- The set of a script. -/
def ofScriptName? (name : String) : Option CharSet := (Script.ofName? name).map Script.includes

/-- The characters that can begin an identifier of a program. -/
def isIdentifierStart (c : Char) : Bool :=
  isLetter c || Category.letterNumber.includes c ||
    ['\u2118', '\u212e', '\u309b', '\u309c', '\u1885', '\u1886'].contains c

/-- The characters that can continue an identifier of a program. -/
def isIdentifierPart (c : Char) : Bool :=
  isIdentifierStart c || Category.nonspacingMark.includes c || Category.spacingMark.includes c ||
    isDecimalDigit c || Category.connectorPunctuation.includes c ||
    ['\u00b7', '\u0387', '\u1369', '\u136a', '\u136b', '\u136c', '\u136d', '\u136e', '\u136f',
     '\u1370', '\u1371', '\u19da', '\u30fb', '\uff65', '\u200c', '\u200d'].contains c

/-- The known properties that a character has or has not, by their names in small letters without
separators. Other properties of characters, such as `emoji`, `dash` or `math`, are not known. -/
def binaryProperties : List (List String × CharSet) :=
  [(["alphabetic", "alpha"], isAlphabetic), (["uppercase", "upper"], isUppercase),
   (["lowercase", "lower"], isLowercase), (["whitespace", "wspace", "space"], isWhite),
   (["cased"], fun c => isUppercase c || isLowercase c || Category.titlecaseLetter.includes c),
   (["hexdigit", "hex"], isHexDigit),
   (["joincontrol", "joinc"], fun c => c == '\u200c' || c == '\u200d'),
   (["asciihexdigit", "ahex"], isAsciiHexDigit),
   (["idstart", "ids", "xidstart", "xids"], isIdentifierStart),
   (["idcontinue", "idc", "xidcontinue", "xidc"], isIdentifierPart)]

/-- The set of such a property. -/
def ofBinaryName? (name : String) : Option CharSet :=
  (binaryProperties.find? fun entry => entry.1.contains name).map (·.2)

/-- The letters and other ASCII signs of a name, in small letters and without separators. -/
def essence (name : List Char) : List Char :=
  (name.filter fun c => c.toNat < 0x80 && !(c == ' ' || c == '_' || c == '-')).map Char.toLower

/-- A name without what does not matter in it: case, separators and a leading `is`. -/
def normalize (name : List Char) : String :=
  if (name.take 2).map Char.toLower = ['i', 's'] then
    let rest := essence (name.drop 2)
    if rest = ['c'] then "isc" else String.ofList rest
  else String.ofList (essence name)

/-- The set of a property that is given by a single name: a property that a character has or has not,
a general category or a script. -/
def ofPropertyName? (name : List Char) : Option CharSet :=
  let name := normalize name
  let binary? := if name = "cf" ∨ name = "sc" ∨ name = "lc" then none else ofBinaryName? name
  binary?.or ((ofCategoryName? name).or (ofScriptName? name))

/-- The set of the characters for which a property has a value. The extensions of a script are taken
to be the script itself, and properties beside category and script (`age`, `gcb`, `wb`, `sb`) are
not known. -/
def ofPropertyValue? (property value : List Char) : Option CharSet :=
  match normalize property with
  | "gc" | "generalcategory" => ofCategoryName? (normalize value)
  | "sc" | "script" | "scx" | "scriptextensions" => ofScriptName? (normalize value)
  | _ => none

end CharSet

/-! ## Conditions on a place -/

namespace Edge

/-- The beginning of the text. -/
def textStart (before? _after? : Option Char) : Bool := before?.isNone

/-- The end of the text. -/
def textEnd (_before? after? : Option Char) : Bool := after?.isNone

/-- The beginning of a line. -/
def lineStart (before? _after? : Option Char) : Bool := before?.all (· == '\n')

/-- The end of a line. -/
def lineEnd (_before? after? : Option Char) : Bool := after?.all (· == '\n')

/-- The beginning of a line, where a carriage return can end one too. -/
def returnLineStart (before? after? : Option Char) : Bool :=
  before?.all (· == '\n') || (before? == some '\r' && after? != some '\n')

/-- The end of a line, where a carriage return can end one too. -/
def returnLineEnd (before? after? : Option Char) : Bool :=
  after?.all (· == '\r') || (after? == some '\n' && before? != some '\r')

/-- The edge of a word on either side. -/
def word (isWord : CharSet) (before? after? : Option Char) : Bool :=
  before?.any isWord != after?.any isWord

/-- No edge of a word. -/
def noWord (isWord : CharSet) (before? after? : Option Char) : Bool :=
  before?.any isWord == after?.any isWord

/-- No word before. -/
def wordStartHalf (isWord : CharSet) (before? _after? : Option Char) : Bool := !before?.any isWord

/-- No word after. -/
def wordEndHalf (isWord : CharSet) (_before? after? : Option Char) : Bool := !after?.any isWord

/-- The beginning of a word. -/
def wordStart (isWord : CharSet) (before? after? : Option Char) : Bool :=
  !before?.any isWord && after?.any isWord

/-- The end of a word. -/
def wordEnd (isWord : CharSet) (before? after? : Option Char) : Bool :=
  before?.any isWord && !after?.any isWord

end Edge

end GoSchema.Pattern
