import GoSchema.Text.Quoted

/-!
# JSON values

A JSON text is read into a tree that keeps strings as the pieces they are spelled with and numbers as
their literals. So a value that nobody asks for may hold half a surrogate pair or a number beyond all
bounds; only what is asked for has to make sense.
-/

namespace GoSchema

/-- A JSON value. Numbers and strings are kept as they are written. -/
inductive Json where
  | null
  | bool (b : Bool)
  | number (literal : List Char)
  | string (pieces : List Text.Quoted.Piece)
  | array (items : List Json)
  | object (members : List (List Text.Quoted.Piece × Json))
deriving Repr, Inhabited

namespace Json

open Text.Quoted

/-- The pieces of a text. -/
def pieces (s : String) : List Piece := s.toList.map .char

/-- The string of a text. -/
def ofText (s : String) : Json := .string (pieces s)

/-- The number of a natural number. -/
def ofNat (n : Nat) : Json := .number (Nat.toDigits 10 n)

/-- The object of some members. -/
def ofMembers (members : List (String × Json)) : Json :=
  .object (members.map fun member => (pieces member.1, member.2))

/-- The text of a string. -/
def text? : Json → Option String
  | .string pieces => (join pieces).map String.ofList
  | _ => none

/-- The truth value of a boolean. -/
def bool? : Json → Option Bool
  | .bool b => some b
  | _ => none

end Json

end GoSchema
