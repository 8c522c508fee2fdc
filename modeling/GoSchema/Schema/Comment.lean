import GoSchema.Text.Trim

/-!
# Comments

Documentation is written as line comments. Each of its lines is filled up to a given width, measured
in bytes; a word that is too long for a line stands on a line of its own.
-/

namespace GoSchema.Schema.Comment

open Text

/-- The bytes of a word. -/
def size (word : List Char) : Nat := (word.map Char.utf8Size).foldr (· + ·) 0

/-- The words that fit on a line which holds so many bytes already, and the words left over. -/
def fillLine (width used : Nat) : List (List Char) → List (List Char) × List (List Char)
  | [] => ([], [])
  | word :: rest =>
    if used + 1 + size word > width then ([], word :: rest)
    else
      let (line, left) := fillLine width (used + 1 + size word) rest
      (word :: line, left)

theorem length_fillLine_le (width used : Nat) (words : List (List Char)) :
    (fillLine width used words).2.length ≤ words.length := by
  induction words generalizing used with
  | nil => simp [fillLine]
  | cons word rest ih =>
    unfold fillLine
    split
    · exact Nat.le_refl _
    · exact Nat.le_trans (ih _) (Nat.le_succ _)

/-- The lines that words are filled into; each holds at least one word. -/
def wrap (width : Nat) : List (List Char) → List (List (List Char))
  | [] => []
  | word :: rest =>
    have := length_fillLine_le width (size word) rest
    let filled := fillLine width (size word) rest
    (word :: filled.1) :: wrap width filled.2
termination_by words => words.length
decreasing_by
  simp only [List.length_cons]
  omega

/-- The last column that a comment reaches unless a word is too long. -/
def lastColumn : Nat := 80

/-- The bytes left for words on a line that is indented so many levels. -/
def lineWidth (depth : Nat) : Nat := max (lastColumn - (2 * depth + 3)) 20

/-- The lines of a documentation text at a level of indentation, as their words. A blank line within
the text becomes a line without words. -/
def lines (docs : String) (depth : Nat) : List (List (List Char)) :=
  match trim docs.toList with
  | [] => []
  | text =>
    (text.splitOn '\n').flatMap fun line =>
      match words line with
      | [] => [[]]
      | words => wrap (lineWidth depth) words

/-- Whether a text documents anything. -/
def isBlank (docs : String) : Bool := (trim docs.toList).isEmpty

end GoSchema.Schema.Comment
