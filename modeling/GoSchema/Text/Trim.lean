import GoSchema.Text.Property

/-!
# Trimming and splitting

White space at the ends of a text, and the words between white space.
-/

namespace GoSchema.Text

/-- The text without the characters at its end that pass a test. -/
def trimEndWhile (p : Char → Bool) (s : List Char) : List Char := (s.reverse.dropWhile p).reverse

/-- The text without white space at its end. -/
def trimEnd (s : List Char) : List Char := trimEndWhile isWhite s

/-- The text without white space at either end. -/
def trim (s : List Char) : List Char := trimEnd (s.dropWhile isWhite)

/-- The words of a text, which stand between white space. -/
def words (s : List Char) : List (List Char) :=
  (s.splitOnP isWhite).filter fun word => !word.isEmpty

end GoSchema.Text
