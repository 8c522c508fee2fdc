import GoSchema.Text.Property
import GoSchema.Go.Token

/-!
# Scanning

A text is cut into lexemes from the left. At each place the first form that fits decides; a form says
how many characters it takes. Blanks and block comments are lexemes that make no token. Where no form
fits, the text up to the next place where one does is refused.

The main statement here is `Lexeme.size_pos`: a lexeme is never empty, so that scanning ends.
-/

namespace GoSchema.Go

/-- The characters that a lexeme takes, and the kind of token that it makes. -/
structure Lexeme where
  size : Nat
  kind? : Option Token.Kind
deriving Repr, DecidableEq

namespace Lexeme

open Text

/-! ## Forms -/

/-- The characters up to the end of a block comment, its end included. -/
def blockEnd? : List Char → Option Nat
  | [] => none
  | '*' :: '/' :: _ => some 2
  | _ :: rest => (blockEnd? rest).map (· + 1)

/-- The characters of a raw string after its opening mark, the closing mark included. -/
def rawEnd? : List Char → Option Nat
  | [] => none
  | '\x60' :: _ => some 1
  | _ :: rest => (rawEnd? rest).map (· + 1)

/-- The characters of a string or rune literal after its opening mark, the closing mark included. A
literal ends on its line; a backslash takes the next character with it. -/
def literalEnd? (mark : Char) : List Char → Option Nat
  | [] => none
  | '\\' :: c :: rest => if c = '\n' then none else (literalEnd? mark rest).map (· + 2)
  | c :: rest =>
    if c = mark then some 1
    else if c = '\n' ∨ c = '\\' then none
    else (literalEnd? mark rest).map (· + 1)

/-- The signs of more than one character. -/
def operators : List String :=
  ["...", "<-", ":=", "&&", "||", "==", "!=", "<=", ">=", "<<", ">>", "&^", "++", "--"]

/-- The signs of one character. -/
def signs : List Char :=
  ['-', '+', '*', '/', '%', '&', '|', '^', '<', '>', '=', '!', ':', '.', ',', ';',
   '(', ')', '\x7b', '\x7d', '[', ']', '~']

/-- A character that can begin an identifier. -/
def isIdentStart (c : Char) : Bool := isLetter c || c == '_'

/-- A character that can continue an identifier. -/
def isIdentPart (c : Char) : Bool := isLetter c || isNumber c || c == '_'

/-- A character that can continue a number, the point apart. -/
def isNumberPart (c : Char) : Bool := c.isAlphanum || c == '_'

/-- A blank within a line. A carriage return is one. -/
def isBlank (c : Char) : Bool := c == ' ' || c == '\t' || c == '\r'

/-- The length of the longest beginning whose characters all pass a test. -/
def run (p : Char → Bool) (s : List Char) : Nat := (s.takeWhile p).length

/-- The comments, blanks and literals. -/
def enclosed? : List Char → Option Lexeme
  | '/' :: '/' :: rest => some ⟨run (· != '\n') rest + 2, some .comment⟩
  | '/' :: '*' :: rest => (blockEnd? rest).map fun n => ⟨n + 2, none⟩
  | '\x60' :: rest => (rawEnd? rest).map fun n => ⟨n + 1, some .str⟩
  | '"' :: rest => (literalEnd? '"' rest).map fun n => ⟨n + 1, some .str⟩
  | '\'' :: rest => (literalEnd? '\'' rest).map fun n => ⟨n + 1, some .str⟩
  | _ => none

/-- The signs of more than one character. -/
def operator? (s : List Char) : Option Lexeme :=
  (operators.find? fun op => op.toList.isPrefixOf s).map fun op => ⟨op.length, some .punct⟩

/-- A number that begins with a point. -/
def pointNumber? : List Char → Option Lexeme
  | '.' :: c :: rest => if isDecimalDigit c then some ⟨run isNumberPart rest + 2, some .number⟩ else none
  | _ => none

/-- The remaining forms are told apart by their first character. A run of digits of another script
than the Latin one is no number but a sign. -/
def simple? : List Char → Option Lexeme
  | [] => none
  | c :: rest =>
    if isIdentStart c then some ⟨run isIdentPart rest + 1, some .ident⟩
    else if isDecimalDigit c then
      some ⟨run (fun c => isNumberPart c || c == '.') rest + 1, some (if c.isDigit then .number else .punct)⟩
    else if c = '\n' then some ⟨1, some .newline⟩
    else if isBlank c then some ⟨run isBlank rest + 1, none⟩
    else if signs.contains c then some ⟨1, some .punct⟩
    else none

/-- The lexeme at the beginning of a text. -/
def atStart? (s : List Char) : Option Lexeme :=
  (enclosed? s).or <| (operator? s).or <| (pointNumber? s).or (simple? s)

/-! ## Lexemes are not empty -/

private theorem operators_length_pos : ∀ op ∈ operators, 0 < op.length := by decide

/-- A lexeme takes at least one character. -/
theorem size_pos {s : List Char} {l : Lexeme} (h : atStart? s = some l) : 0 < l.size := by
  simp only [atStart?, Option.or_eq_some_iff] at h
  rcases h with h | ⟨-, h | ⟨-, h | ⟨-, h⟩⟩⟩
  · unfold enclosed? at h
    split at h <;> grind [Option.map_eq_some_iff]
  · obtain ⟨op, hfind, rfl⟩ := Option.map_eq_some_iff.1 h
    exact operators_length_pos op (List.mem_of_find?_eq_some hfind)
  · unfold pointNumber? at h
    grind
  · unfold simple? at h
    grind

/-- Nothing begins at the end of a text. -/
theorem atStart?_nil : atStart? [] = none := by decide

/-- What follows a lexeme is shorter than the text that the lexeme begins. -/
theorem length_drop_lt {s : List Char} {l : Lexeme} (h : atStart? s = some l) :
    (s.drop l.size).length < s.length := by
  have hpos := size_pos h
  cases s with
  | nil => simp [atStart?_nil] at h
  | cons c rest =>
    rw [List.length_drop, List.length_cons]
    omega

end Lexeme

/-! ## Scanning a text -/

namespace Token

/-- The text up to the next place where a lexeme begins. -/
def stray : List Char → List Char
  | [] => []
  | c :: rest => if (Lexeme.atStart? (c :: rest)).isSome then [] else c :: stray rest

/-- The tokens of the rest of a text that begins at a given place. -/
def scanFrom (pos : Position) (s : List Char) : Except Fault (List Token) :=
  match h : Lexeme.atStart? s with
  | some l =>
    have := Lexeme.length_drop_lt h
    let text := s.take l.size
    match scanFrom (pos.after text) (s.drop l.size), l.kind? with
    | .ok tokens, some kind => .ok (⟨kind, String.ofList text, pos⟩ :: tokens)
    | result, _ => result
  | none =>
    match s with
    | [] => .ok [atEnd pos]
    | _ => .error ⟨.strayText (String.ofList (stray s)), pos⟩
termination_by s.length
decreasing_by assumption

/-- The tokens of a text. The last one stands for its end. -/
def scan (text : String) : Except Fault (List Token) := scanFrom .start text.toList

end Token

end GoSchema.Go
