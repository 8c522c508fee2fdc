import GoSchema.Json.Basic
import GoSchema.Text.Rest

/-!
# Reading JSON

A strict reader: no comments, no trailing commas, no text after the value. Each step returns the text
that it leaves together with the fact that this is shorter, which is why the reading ends.
-/

namespace GoSchema.Json

open Text Text.Quoted

/-- White space between tokens. -/
def isSpace (c : Char) : Bool := c == ' ' || c == '\n' || c == '\t' || c == '\r'

/-- The text after white space. -/
def skipSpace (s : List Char) : List Char := s.dropWhile isSpace

theorem length_skipSpace_le (s : List Char) : (skipSpace s).length ≤ s.length :=
  (List.dropWhile_suffix isSpace).length_le

/-! ## Numbers -/

/-- The digits at the beginning of a text, at least one, and what follows them. -/
def digits? (s : List Char) : Option (List Char × List Char) :=
  match s.takeWhile Char.isDigit with
  | [] => none
  | digits => some (digits, s.dropWhile Char.isDigit)

/-- The whole part of a number: a zero, or digits that begin with none. -/
def whole? : List Char → Option (List Char × List Char)
  | '0' :: rest => some (['0'], rest)
  | s => digits? s

/-- The fraction of a number, which may be missing. -/
def fraction? : List Char → Option (List Char × List Char)
  | '.' :: rest => (digits? rest).map fun (digits, rest) => ('.' :: digits, rest)
  | s => some ([], s)

/-- The sign of an exponent, which may be missing. -/
def exponentSign : List Char → List Char × List Char
  | '+' :: rest => (['+'], rest)
  | '-' :: rest => (['-'], rest)
  | s => ([], s)

/-- The exponent of a number, which may be missing. -/
def exponent? : List Char → Option (List Char × List Char)
  | e :: rest =>
    if e = 'e' ∨ e = 'E' then
      let (sign, rest) := exponentSign rest
      (digits? rest).map fun (digits, rest) => (e :: sign ++ digits, rest)
    else some ([], e :: rest)
  | [] => some ([], [])

/-- The number at the beginning of a text, and what follows it. -/
def number? (s : List Char) : Option (List Char × List Char) := do
  let (sign, s) := match s with
    | '-' :: rest => (['-'], rest)
    | s => ([], s)
  let (whole, s) ← whole? s
  let (fraction, s) ← fraction? s
  let (exponent, s) ← exponent? s
  return (sign ++ whole ++ fraction ++ exponent, s)

/-! ## Values -/

/-- What follows a given word at the beginning of a text. -/
def word? (word s : List Char) : Option (List Char) :=
  if word.isPrefixOf s then some (s.drop word.length) else none

/-- A value that is no array and no object. -/
def atom? (s : List Char) : Option (Json × Rest s) :=
  taken? s <| match s with
    | 'n' :: _ => (word? ['n', 'u', 'l', 'l'] s).map (.null, ·)
    | 't' :: _ => (word? ['t', 'r', 'u', 'e'] s).map (.bool true, ·)
    | 'f' :: _ => (word? ['f', 'a', 'l', 's', 'e'] s).map (.bool false, ·)
    | '"' :: rest => (readPieces rest).map fun (pieces, rest) => (.string pieces, rest)
    | s => (number? s).map fun (literal, rest) => (.number literal, rest)

/-- What follows a given sign, white space before it passed. -/
def sign? (sign : Char) (s : List Char) : Option (Rest s) :=
  match h : skipSpace s with
  | c :: rest =>
    if c = sign then
      some ⟨rest, by
        have hle := length_skipSpace_le s
        rw [h, List.length_cons] at hle
        omega⟩
    else none
  | [] => none

mutual

/-- The value at the beginning of a text, white space before it passed. -/
def value? (s : List Char) : Option (Json × Rest s) :=
  if let some ⟨r, hr⟩ := sign? '[' s then
    if let some ⟨t, ht⟩ := sign? ']' r then
      some (.array [], ⟨t, by omega⟩)
    else do
      let (items, ⟨t, ht⟩) ← items? r
      some (.array items, ⟨t, by omega⟩)
  else if let some ⟨r, hr⟩ := sign? '\x7b' s then
    if let some ⟨t, ht⟩ := sign? '\x7d' r then
      some (.object [], ⟨t, by omega⟩)
    else do
      let (members, ⟨t, ht⟩) ← members? r
      some (.object members, ⟨t, by omega⟩)
  else do
    let (j, ⟨r, hr⟩) ← atom? (skipSpace s)
    some (j, ⟨r, Nat.lt_of_lt_of_le hr (length_skipSpace_le s)⟩)
termination_by 2 * s.length

/-- The items of an array up to its end; there is at least one. -/
def items? (s : List Char) : Option (List Json × Rest s) := do
  let (item, ⟨r, hr⟩) ← value? s
  if let some ⟨t, ht⟩ := sign? ',' r then
    let (items, ⟨u, hu⟩) ← items? t
    some (item :: items, ⟨u, by omega⟩)
  else
    let ⟨t, ht⟩ ← sign? ']' r
    some ([item], ⟨t, by omega⟩)
termination_by 2 * s.length + 1

/-- The members of an object up to its end; there is at least one. -/
def members? (s : List Char) : Option (List (List Piece × Json) × Rest s) := do
  let ⟨q, hq⟩ ← sign? '"' s
  let (key, ⟨r, hr⟩) ← taken? q (readPieces q)
  let ⟨t, ht⟩ ← sign? ':' r
  let (value, ⟨u, hu⟩) ← value? t
  if let some ⟨v, hv⟩ := sign? ',' u then
    let (members, ⟨w, hw⟩) ← members? v
    some ((key, value) :: members, ⟨w, by omega⟩)
  else
    let ⟨v, hv⟩ ← sign? '\x7d' u
    some ([(key, value)], ⟨v, by omega⟩)
termination_by 2 * s.length + 1

end

/-- Reads a text that holds one value. -/
def parse? (s : List Char) : Option Json := do
  let (j, ⟨r, _⟩) ← value? s
  if (skipSpace r).isEmpty then some j else none

end GoSchema.Json
