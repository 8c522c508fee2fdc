import GoSchema.Go.Comment
import GoSchema.Go.Token

/-!
# Reading tokens

A cursor stands before the next token of a file. Reading moves it forward, and every function here
says so in its type or in a lemma: `Later` is a cursor before which at least one token was taken, and
`Within` one that has not moved back. Loops over tokens end because of that.
-/

namespace GoSchema.Go

/-- A place among the tokens of a file, with what has to be remembered of the tokens before it. -/
structure Cursor where
  rest : List Token
  /-- The place of the end of the file. -/
  finish : Position
  /-- The line of the token before, or zero. -/
  lastLine : Nat
  /-- The comments passed since the last item, the latest first. -/
  passed : List Comment
deriving Repr, DecidableEq

namespace Cursor

/-- The cursor before all tokens. -/
def ofTokens (tokens : List Token) : Cursor :=
  ⟨tokens, (tokens.getLast?.map (·.pos)).getD .start, 0, []⟩

/-- How many tokens are left. -/
def left (c : Cursor) : Nat := c.rest.length

/-- A cursor further on. -/
abbrev Later (c : Cursor) := { d : Cursor // d.left < c.left }

/-- A cursor further on or the same. -/
abbrev Within (c : Cursor) := { d : Cursor // d.left ≤ c.left }

section Left

variable {c d e : Cursor}

theorem left_le (c : Cursor) : c.left ≤ c.left := Nat.le_refl _

theorem le_of_later (hd : d.left < c.left) : d.left ≤ c.left := Nat.le_of_lt hd

theorem later_trans (he : e.left < d.left) (hd : d.left < c.left) : e.left < c.left :=
  Nat.lt_trans he hd

theorem later_of_within (he : e.left ≤ d.left) (hd : d.left < c.left) : e.left < c.left :=
  Nat.lt_of_le_of_lt he hd

theorem later_trans_within (he : e.left < d.left) (hd : d.left ≤ c.left) : e.left < c.left :=
  Nat.lt_of_lt_of_le he hd

end Left

/-! ## Looking ahead -/

/-- The token a given number of tokens ahead. -/
def ahead (c : Cursor) (n : Nat) : Token := c.rest.getD n (.atEnd c.finish)

/-- The next token. -/
def current (c : Cursor) : Token := c.ahead 0

/-- Whether no token is left. -/
def isAtEnd (c : Cursor) : Bool := c.current.kind == .finish

/-- The next token is not one that can stand here. -/
def unexpected (c : Cursor) : Fault :=
  if c.isAtEnd then ⟨.unexpectedEnd, c.current.pos⟩
  else ⟨.unexpectedToken c.current.text, c.current.pos⟩

/-- A type is looked for again where it was looked for, because an end of the text is not passed. -/
def endless (c : Cursor) : Fault := ⟨.endless, c.current.pos⟩

/-! ## Taking tokens -/

/-- The cursor after a token that is followed by the given ones. -/
def past (c : Cursor) (t : Token) (rest : List Token) : Cursor :=
  { c with rest := rest, lastLine := t.pos.line }

/-- Takes the next token, unless it is the end of the text. -/
def next? (c : Cursor) : Option (Token × c.Later) :=
  match h : c.rest with
  | [] => none
  | t :: rest =>
    if t.kind = .finish then none else some (t, ⟨c.past t rest, by simp [left, past, h]⟩)

/-- Passes the next token, whatever it is. At the end of the text the cursor stays where it is. -/
def advance (c : Cursor) : c.Within :=
  match c.next? with
  | some (_, ⟨d, h⟩) => ⟨d, Nat.le_of_lt h⟩
  | none => ⟨c, Nat.le_refl _⟩

/-- Takes a given word or sign, also from an end that says it. -/
def eat? (c : Cursor) (text : String) : Option c.Later :=
  match h : c.rest with
  | [] => none
  | t :: rest => if t.is text then some ⟨c.past t rest, by simp [left, past, h]⟩ else none

/-- Takes a given word or sign if it comes next, and says whether it did. -/
def eatIf (c : Cursor) (text : String) : Bool × c.Within :=
  match c.eat? text with
  | some ⟨d, h⟩ => (true, ⟨d, Nat.le_of_lt h⟩)
  | none => (false, ⟨c, Nat.le_refl _⟩)

/-- Takes a word or sign that has to come next. -/
def expect (c : Cursor) (text : String) : Except Fault c.Later :=
  match c.eat? text with
  | some d => .ok d
  | none => .error ⟨.expected text c.current.text, c.current.pos⟩

/-- Takes an identifier that has to come next. -/
def expectIdent (c : Cursor) : Except Fault (Token × c.Later) :=
  match c.next? with
  | some (t, d) =>
    if t.kind = .ident then .ok (t, d) else .error ⟨.expectedIdentifier t.text, t.pos⟩
  | none => .error ⟨.expectedIdentifier c.current.text, c.current.pos⟩

/-! ## Comments and line ends -/

/-- Forgets the comments passed so far. -/
def forget (c : Cursor) : Cursor := { c with passed := [] }

@[simp] theorem left_forget (c : Cursor) : c.forget.left = c.left := rfl

theorem later_of_forget {c d e : Cursor} (he : e.left < d.forget.left) (hd : d.left < c.left) :
    e.left < c.left :=
  Nat.lt_trans he hd

/-- The documentation of an item on a given line. -/
def docs (c : Cursor) (line : Nat) : String := Comment.docs line c.passed

/-- Passes line ends, semicolons and comments, and remembers the comments. -/
def skipTrivia (c : Cursor) : Cursor :=
  match h : c.rest with
  | [] => c
  | t :: rest =>
    have : rest.length < c.rest.length := by simp [h]
    if t.kind = .comment then
      skipTrivia { c.past t rest with passed := ⟨t.pos.line, t.text⟩ :: c.passed }
    else if t.kind = .newline ∨ t.kind = .punct ∧ t.text = ";" then skipTrivia (c.past t rest)
    else c
termination_by c.rest.length

theorem left_skipTrivia_le (c : Cursor) : c.skipTrivia.left ≤ c.left := by
  fun_induction skipTrivia c with
  | case1 => exact Nat.le_refl _
  | case2 c t rest h _ _ ih | case3 c t rest h _ _ _ ih =>
    simp only [left, past] at ih ⊢
    omega
  | case4 => exact Nat.le_refl _

theorem within_of_skipTrivia {c d : Cursor} (hd : d.left ≤ c.skipTrivia.left) : d.left ≤ c.left :=
  Nat.le_trans hd c.left_skipTrivia_le

theorem later_of_skipTrivia {c d : Cursor} (hd : d.left < c.skipTrivia.left) : d.left < c.left :=
  Nat.lt_of_lt_of_le hd c.left_skipTrivia_le

/-- Passes a comment on the line of the token before it. Such a comment says something about that
token and is no documentation. -/
def skipTrailingComment (c : Cursor) : Cursor :=
  match c.rest with
  | t :: rest => if t.kind = .comment ∧ t.pos.line = c.lastLine then c.past t rest else c
  | [] => c

theorem left_skipTrailingComment_le (c : Cursor) : c.skipTrailingComment.left ≤ c.left := by
  unfold skipTrailingComment left
  split
  · split <;> simp_all [past]
  · exact Nat.le_refl _

/-- After an item and the comment on its line. -/
theorem skipTrailingComment_later {c d : Cursor} (hd : d.left < c.skipTrivia.forget.left) :
    d.skipTrailingComment.left < c.left :=
  Nat.lt_of_le_of_lt d.left_skipTrailingComment_le (later_of_skipTrivia hd)

/-- After the items that follow one. -/
theorem later_of_skipTrailingComment {c d e : Cursor}
    (he : e.left < d.skipTrailingComment.left) (hd : d.skipTrailingComment.left < c.left) :
    e.left < c.left :=
  Nat.lt_trans he hd

/-! ## Passing over what is not read -/

/-- Passes everything up to a closing bracket. So many more brackets as `depth` says are open inside
it. -/
def skipBalanced (c : Cursor) (opening closing : String) (depth : Nat) : Except Fault c.Later :=
  match c.next? with
  | none => .error c.unexpected
  | some (t, ⟨d, h⟩) =>
    if t.is opening then do
      let ⟨e, he⟩ ← skipBalanced d opening closing (depth + 1)
      return ⟨e, Nat.lt_trans he h⟩
    else if t.is closing then
      match depth with
      | 0 => .ok ⟨d, h⟩
      | depth + 1 => do
        let ⟨e, he⟩ ← skipBalanced d opening closing depth
        return ⟨e, Nat.lt_trans he h⟩
    else do
      let ⟨e, he⟩ ← skipBalanced d opening closing depth
      return ⟨e, Nat.lt_trans he h⟩
termination_by c.left

/-- Passes the rest of a statement, which ends with its line or at a semicolon. Within brackets it
runs on; `depth` of them are open. -/
def skipStatement (c : Cursor) (depth : Nat) : c.Within :=
  match c.next? with
  | none => ⟨c, Nat.le_refl _⟩
  | some (t, ⟨d, h⟩) =>
    if (t.kind = .newline ∨ t.isSign ";") ∧ depth = 0 then ⟨c, Nat.le_refl _⟩
    else
      let depth :=
        if ["(", "[", Token.openBrace].any t.isSign then depth + 1
        else if [")", "]", Token.closeBrace].any t.isSign then depth - 1
        else depth
      let ⟨e, he⟩ := skipStatement d depth
      ⟨e, Nat.le_trans he (Nat.le_of_lt h)⟩
termination_by c.left

/-- Passes the rest of a function: its signature and, on the same line, its body. The braces of a
type in the signature follow `interface` or `struct`, so the word before a brace tells them apart. -/
def skipFunction (c : Cursor) (depth : Nat) (before : String) : Except Fault c.Within :=
  match c.next? with
  | none => .ok ⟨c, Nat.le_refl _⟩
  | some (t, ⟨d, h⟩) =>
    if t.kind = .newline ∧ depth = 0 then .ok ⟨c, Nat.le_refl _⟩
    else if t.is Token.openBrace then do
      let ⟨e, he⟩ ← d.skipBalanced Token.openBrace Token.closeBrace 0
      if depth = 0 ∧ before ≠ "interface" ∧ before ≠ "struct" then return ⟨e, by omega⟩
      let ⟨f, hf⟩ ← skipFunction e depth t.text
      return ⟨f, by omega⟩
    else do
      let depth :=
        if ["(", "["].any t.is then depth + 1
        else if [")", "]"].any t.is then depth - 1
        else depth
      let ⟨e, he⟩ ← skipFunction d depth t.text
      return ⟨e, by omega⟩
termination_by c.left

/-! ## Source text -/

/-- The tokens from one cursor up to a later one. -/
def upTo (c d : Cursor) : List Token := c.rest.take (c.left - d.left)

/-- The text of some tokens without line ends and comments. Two words in a row are set apart by a
blank; `afterWord` says that a word came before. -/
def compact (afterWord : Bool) : List Token → String
  | [] => ""
  | t :: rest =>
    if t.isLayout then compact afterWord rest
    else (if afterWord && t.isWord then " " else "") ++ t.text ++ compact t.isWord rest

/-- The text of the tokens from one cursor up to a later one. -/
def textUpTo (c d : Cursor) : String := compact false (c.upTo d)

end Cursor

end GoSchema.Go
