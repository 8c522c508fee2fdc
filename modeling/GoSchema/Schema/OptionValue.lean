import GoSchema.Text.Quoted

/-!
# Values of file options

The value of a file option is a text. It is written as it is when it reads as a truth value, a number
or the name of an enumeration value, and between quotes otherwise.
-/

namespace GoSchema.Schema.OptionValue

/-- The text after a sign, if there is one. -/
def afterSign : List Char → List Char
  | '+' :: rest => rest
  | '-' :: rest => rest
  | s => s

/-- The names of numbers that have no digits. -/
def namedNumbers : List String := ["inf", "infinity", "nan"]

/-- Whether a text is an exponent, or nothing. -/
def isExponent : List Char → Bool
  | [] => true
  | e :: rest =>
    let digits := afterSign rest
    (e == 'e' || e == 'E') && !digits.isEmpty && digits.all Char.isDigit

/-- Whether a text is a decimal number without a sign: digits with at most one point among or around
them, and an exponent that may be missing. -/
def isDecimal (s : List Char) : Bool :=
  let whole := s.takeWhile Char.isDigit
  match s.dropWhile Char.isDigit with
  | '.' :: rest =>
    let fraction := rest.takeWhile Char.isDigit
    (!whole.isEmpty || !fraction.isEmpty) && isExponent (rest.dropWhile Char.isDigit)
  | rest => !whole.isEmpty && isExponent rest

/-- Whether a text is a number. -/
def isNumber (s : List Char) : Bool :=
  let s := afterSign s
  namedNumbers.contains (String.ofList (s.map Char.toLower)) || isDecimal s

/-- Whether a text is a name that begins with a capital. -/
def isEnumName (s : List Char) : Bool :=
  s.head?.any Char.isUpper && s.all fun c => c.isAlphanum || c == '_'

/-- Whether a text is written without quotes. -/
def isBare (value : String) : Bool :=
  value == "true" || value == "false" || isNumber value.toList || isEnumName value.toList

/-- A value as it is written. -/
def render (value : String) : String := if isBare value then value else quote value

end GoSchema.Schema.OptionValue
