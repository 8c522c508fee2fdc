import GoSchema.Text.Trim

/-!
# Documentation comments

The documentation of an item is the block of line comments that ends on the line above it. The marks,
one blank after them and the white space at the end of a line do not belong to the text; a line that
instructs a tool is left out.
-/

namespace GoSchema.Go

/-- A line comment with its marks, and the line it stands on. -/
structure Comment where
  line : Nat
  text : String
deriving Repr, DecidableEq

namespace Comment

open Text

/-- Drops every pair of slashes at the beginning of a text. -/
def dropMarks : List Char → List Char
  | '/' :: '/' :: rest => dropMarks rest
  | s => s

/-- Drops one blank at the beginning of a text. -/
def dropBlank : List Char → List Char
  | ' ' :: rest => rest
  | s => s

/-- What a comment says. -/
def content (c : Comment) : List Char := trimEnd (dropBlank (dropMarks c.text.toList))

/-- Beginnings of a line that instructs a tool. -/
def directives : List String := ["go:", "+build", "nolint", "lint:"]

/-- Whether a line instructs a tool. -/
def isDirective (line : List Char) : Bool := directives.any fun d => d.toList.isPrefixOf line

/-- Of the comments passed, the latest first, those that form a block which ends just above a given
line. -/
def blockAbove (line : Nat) : List Comment → List Comment
  | [] => []
  | c :: earlier => if c.line + 1 = line then c :: blockAbove c.line earlier else []

/-- The documentation of an item on a given line, from the comments passed before it, the latest
first. -/
def docs (line : Nat) (passed : List Comment) : String :=
  let lines := ((blockAbove line passed).reverse.map content).filter fun line => !isDirective line
  String.ofList (['\n'].intercalate lines)

end Comment

end GoSchema.Go
