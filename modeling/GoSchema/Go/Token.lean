import GoSchema.Go.Fault

/-!
# Tokens

The tokens that the declarations of a Go file are read from. Line ends and line comments are tokens,
because a statement ends with its line and documentation is written in comments; blanks and block
comments are not.
-/

namespace GoSchema.Go

/-- The kinds of tokens. -/
inductive Token.Kind where
  | ident | number | str | comment | newline | punct
  /-- The end of the text. It has no text of its own where a text is scanned, but one that is made
  by hand may have. -/
  | finish
deriving Repr, DecidableEq

/-- A token with its text and the place where it begins. -/
structure Token where
  kind : Token.Kind
  text : String
  pos : Position
deriving Repr, DecidableEq

namespace Token

/-- The sign that opens a body. -/
def openBrace : String := "\x7b"

/-- The sign that closes a body. -/
def closeBrace : String := "\x7d"

/-- The token after the last one. -/
def atEnd (pos : Position) : Token := ⟨.finish, "", pos⟩

/-- Whether the token is a given word or sign. What a literal or a comment says does not count. -/
def is (t : Token) (text : String) : Bool :=
  match t.kind with
  | .str | .comment => false
  | _ => t.text == text

/-- Whether the token is a given sign, and no word or number. -/
def isSign (t : Token) (text : String) : Bool := t.kind == .punct && t.text == text

/-- Whether the token is an identifier or a number, so that a blank has to separate it from another
such token. -/
def isWord (t : Token) : Bool := t.kind == .ident || t.kind == .number

/-- Whether the token is a line end or a line comment. -/
def isLayout (t : Token) : Bool := t.kind == .newline || t.kind == .comment

end Token

end GoSchema.Go
