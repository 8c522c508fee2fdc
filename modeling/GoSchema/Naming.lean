import GoSchema.Text.Property
import GoSchema.Text.CaseMap

/-!
# Names

Go writes compound names with capitals (`UserID`), schemas with underscores (`user_id`). This file
holds both foldings, the list of acronyms that Go writes in capitals throughout, the plural of a noun
and the stem of a service.

Folding to a schema name loses information: `Id` and `ID` both become `id`. A name that comes back
from the round trip changed needs its Go spelling recorded beside it.
-/

namespace GoSchema.Naming

open Text

/-- Words that Go writes in capitals throughout. -/
def acronyms : List String :=
  ["ACL", "API", "ASCII", "CPU", "CSS", "DNS", "EOF", "GUID", "HTML", "HTTP",
   "HTTPS", "ID", "IP", "JSON", "JWT", "LHS", "OS", "QPS", "RAM", "RHS",
   "RPC", "SKU", "SLA", "SMTP", "SQL", "SSH", "TCP", "TLS", "TTL", "UDP",
   "UI", "UID", "URI", "URL", "UTF8", "UUID", "VM", "XML", "XSRF", "XSS"]

/-! ## From capitals to underscores -/

/-- Whether a word begins at a capital: not at the start of the name or after an underscore, but
where the character before is no capital, or the character after is a small letter and so the
capital belongs to what follows. -/
def startsWord (before? after? : Option Char) : Bool :=
  match before? with
  | none => false
  | some before => before != '_' && (!isUppercase before || after?.any isLowercase)

/-- The folding of the rest of a name after a given character. -/
def snakeAfter (before? : Option Char) : List Char → List Char
  | [] => []
  | c :: rest =>
    let folded :=
      if isUppercase c then
        if startsWord before? rest.head? then '_' :: lowercase c else lowercase c
      else [c]
    folded ++ snakeAfter (some c) rest

/-- The schema name of a Go name: capitals become small, and an underscore marks each word that a
capital begins. A run of capitals is one word. -/
def snakeCase (name : String) : String := String.ofList (snakeAfter none name.toList)

/-! ## From underscores to capitals -/

/-- The Go spelling of one word: an acronym in capitals, any other word with a capital in front. -/
def goWord (word : List Char) : List Char :=
  let upper := word.flatMap uppercase
  if acronyms.contains (String.ofList upper) then upper
  else match word with
    | [] => []
    | c :: rest => uppercase c ++ rest

/-- The words of a schema name, which stand between underscores. -/
def snakeWords (name : List Char) : List (List Char) :=
  (name.splitOn '_').filter fun word => !word.isEmpty

/-- The Go name of a schema name. -/
def goCase (name : String) : String :=
  String.ofList ((snakeWords name.toList).flatMap goWord)

/-- The exported Go name made from any identifier. -/
def exportedName (name : String) : String := goCase (snakeCase name)

/-- Go exports a name that begins with a capital. -/
def isExported (name : String) : Bool := name.toList.head?.any isUppercase

/-! ## Nouns and suffixes -/

/-- Endings after which a plural takes `es`. -/
def sibilants : List String := ["s", "x", "z", "ch", "sh"]

/-- Whether a noun ends in `y` after something other than a vowel. -/
def endsInConsonantY (noun : List Char) : Bool :=
  match noun.reverse with
  | 'y' :: before :: _ => !(['a', 'e', 'i', 'o', 'u'].contains before)
  | _ => false

/-- A plural of an English noun. -/
def plural (noun : String) : String :=
  let cs := noun.toList
  if endsInConsonantY cs then String.ofList cs.dropLast ++ "ies"
  else if sibilants.any fun ending => ending.toList.isSuffixOf cs then noun ++ "es"
  else noun ++ "s"

/-- The text before a given ending, if it has that ending. -/
def withoutSuffix? (ending text : String) : Option String :=
  if ending.toList.isSuffixOf text.toList then
    some (String.ofList (text.toList.take (text.toList.length - ending.toList.length)))
  else none

/-- Endings of contract names that a service does without. -/
def serviceSuffixes : List String := ["Service", "Server"]

/-- The service name of a contract: the contract's name without such an ending, unless nothing else
is left. -/
def serviceStem (name : String) : String :=
  (serviceSuffixes.findSome? fun ending =>
    (withoutSuffix? ending name).filter fun stem => !stem.isEmpty).getD name

/-! ## Names that are never messages -/

/-- Whether a type of this name is an error value. -/
def isErrorName (name : String) : Bool :=
  "Err".toList.isPrefixOf name.toList || "Error".toList.isSuffixOf name.toList

/-- Beginnings of the names of test doubles. -/
def testDoubleBeginnings : List String := ["Mock", "Fake", "Stub"]

/-- Whether a type of this name stands in for another in tests. -/
def isTestDoubleName (name : String) : Bool :=
  testDoubleBeginnings.any fun beginning => beginning.toList.isPrefixOf name.toList

end GoSchema.Naming
