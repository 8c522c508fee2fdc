import GoSchema.Proofs.Go.TypeText

/-!
# Steps of a cursor

What one step of reading does, in terms of the tokens that are left: taking a token, passing what
stands between two items, and passing one token of a statement or of a function that is not read.
-/

namespace GoSchema.Go

namespace Cursor

variable {c : Cursor} {t : Token} {text : String}

theorem next?_of_rest {rest : List Token} (h : c.rest = t :: rest) (hkind : t.kind ≠ .finish) :
    ∃ hleft, c.next? = some (t, ⟨c.past t rest, hleft⟩) := by
  have hjump : c = c.jump c.lastLine (t :: rest) := by
    rw [jump, ← h]
  exact ⟨_, next?_of_eq hjump hkind⟩

theorem skipTrivia_of_rest {rest : List Token} (h : c.rest = t :: rest) :
    c.skipTrivia =
      if t.kind = .comment then
        ({ c.past t rest with passed := ⟨t.pos.line, t.text⟩ :: c.passed } : Cursor).skipTrivia
      else if t.kind = .newline ∨ t.kind = .punct ∧ t.text = ";" then (c.past t rest).skipTrivia
      else c := by
  rw [skipTrivia]
  split
  · next hnil =>
    rw [hnil] at h
    cases h
  · next u more hcons =>
    rw [hcons] at h
    cases h
    rfl

theorem skipTrailingComment_of_rest {rest : List Token} (h : c.rest = t :: rest) :
    c.skipTrailingComment =
      if t.kind = .comment ∧ t.pos.line = c.lastLine then c.past t rest else c := by
  rw [skipTrailingComment, h]

theorem current_is_of_eat? {d : c.Later} (h : c.eat? text = some d) : c.current.is text := by
  obtain ⟨t, hrest, his, -⟩ := exists_rest_of_eat? h
  rw [current_of_rest hrest]
  exact his

/-! ## Passing statements and functions -/

/-- How many brackets are open behind a token of a statement. -/
def depthInStatement (depth : Nat) (t : Token) : Nat :=
  if ["(", "[", Token.openBrace].any t.isSign then depth + 1
  else if [")", "]", Token.closeBrace].any t.isSign then depth - 1
  else depth

theorem skipStatement_of_none {depth : Nat} (h : c.next? = none) :
    (c.skipStatement depth).1 = c := by
  rw [skipStatement, h]

theorem skipStatement_of_next? {d : c.Later} {depth : Nat} (h : c.next? = some (t, d)) :
    (c.skipStatement depth).1 =
      if (t.kind = .newline ∨ t.isSign ";") ∧ depth = 0 then c
      else (d.1.skipStatement (depthInStatement depth t)).1 := by
  rw [skipStatement, h]
  dsimp only
  split
  · rfl
  · rfl

/-- How many parentheses and square brackets are open behind a token of a signature. -/
def depthInSignature (depth : Nat) (t : Token) : Nat :=
  if ["(", "["].any t.is then depth + 1
  else if [")", "]"].any t.is then depth - 1
  else depth

theorem upTo_of_rest {d : Cursor} {tokens : List Token} (h : c.rest = tokens ++ d.rest) :
    c.upTo d = tokens := by
  have hlength : c.left - d.left = tokens.length := by
    rw [left, left, h, List.length_append, Nat.add_sub_cancel]
  rw [upTo, hlength, h, List.take_left]

end Cursor

end GoSchema.Go
