import GoSchema.Json.Basic

/-!
# Printing JSON

Each member and each item stands on a line of its own, two blanks further in than what holds it.
-/

namespace GoSchema.Json

open Text.Quoted

/-- The spelling of a piece. -/
def printPiece : Piece → List Char
  | .char c => escape c
  | .half unit =>
    ['\\', 'u', hexDigit (unit / 4096), hexDigit (unit / 256 % 16), hexDigit (unit / 16 % 16),
      hexDigit (unit % 16)]

/-- The literal of a string. -/
def printPieces (pieces : List Piece) : List Char := '"' :: (pieces.flatMap printPiece ++ ['"'])

/-- The end of a line and the indentation of the next one. -/
def newLine (depth : Nat) : List Char := '\n' :: List.replicate (2 * depth) ' '

/-- Encloses the printed lines of a value in its brackets. -/
def enclose (depth : Nat) (opening closing : Char) (lines : List (List Char)) : List Char :=
  if lines.isEmpty then [opening, closing]
  else
    opening :: ((lines.map (newLine (depth + 1) ++ ·)).intersperse [',']).flatten ++
      newLine depth ++ [closing]

mutual

/-- The text of a value that is held by so many others. -/
def print (depth : Nat) : Json → List Char
  | .null => ['n', 'u', 'l', 'l']
  | .bool true => ['t', 'r', 'u', 'e']
  | .bool false => ['f', 'a', 'l', 's', 'e']
  | .number literal => literal
  | .string pieces => printPieces pieces
  | .array items => enclose depth '[' ']' (printItems (depth + 1) items)
  | .object members => enclose depth '\x7b' '\x7d' (printMembers (depth + 1) members)

/-- The texts of the items of an array. -/
def printItems (depth : Nat) : List Json → List (List Char)
  | [] => []
  | item :: rest => print depth item :: printItems depth rest

/-- The texts of the members of an object. -/
def printMembers (depth : Nat) : List (List Piece × Json) → List (List Char)
  | [] => []
  | (key, value) :: rest =>
    (printPieces key ++ ':' :: ' ' :: print depth value) :: printMembers depth rest

end

/-- The text of a value. -/
def pretty (j : Json) : String := String.ofList (print 0 j)

end GoSchema.Json
