import GoSchema.Proofs.Go.Steps

/-!
# Text that stands elsewhere

A construct is read from its own tokens and from the one on which it ends.  So it is read as before
when something else follows it, and when it stands some lines further down in the file: only the
lines change that are noted with what was read, and the documentation, which depends on what stands
above, unless comments that say the same stand there (`Cut.documented`).

## Strategy

Two cursors mirror each other (`Mirrors`) if tokens that are alike are before them, up to a token on
which no construct goes on: a line end, or the end of the file.  The tokens after it may be
different, and the tokens of the second text stand some lines further down.  Which tokens are alike
is left open, as long as they differ in nothing that is read (`Token.Mirrors`): the column of a line
end is not, and neither is a comment beyond what it says.

While a reader stays in front of the token at the cut it does the same in both texts.  For each
reader there is one lemma which says so of a run that ends in front of it.  The run is taken apart
into its steps, all of which end in front of the token as well because readers only go forward; then
the same steps are put together again in the second text.
-/

namespace GoSchema.Go

/-! ## Layout -/

/-- The place in the same column some lines further down. -/
def Position.down (lines : Nat) (p : Position) : Position := ⟨p.line + lines, p.column⟩

/-- The token some lines further down. -/
def Token.down (lines : Nat) (t : Token) : Token := { t with pos := t.pos.down lines }

/-- The field some lines further down. -/
def Field.down (lines : Nat) (f : Field) : Field := { f with pos := f.pos.down lines }

/-- The member some lines further down. -/
def Member.down (lines : Nat) : Member → Member
  | method name params results docs pos => method name params results docs (pos.down lines)
  | embedded type? docs pos => embedded type? docs (pos.down lines)

/-- The type some lines further down. -/
def Declaration.Kind.down (lines : Nat) : Declaration.Kind → Declaration.Kind
  | record fields => record (fields.map (Field.down lines))
  | contract members => contract (members.map (Member.down lines))
  | defined type => defined type

/-- The declaration some lines further down. -/
def Declaration.down (lines : Nat) (d : Declaration) : Declaration :=
  { d with pos := d.pos.down lines, kind := d.kind.down lines }

/-- The column of a place alone. -/
def Position.eraseLine (p : Position) : Position := ⟨0, p.column⟩

/-- A field without its documentation and its line. -/
def Field.eraseLayout (f : Field) : Field := { f with docs := "", pos := f.pos.eraseLine }

/-- A member without its documentation and its line. -/
def Member.eraseLayout : Member → Member
  | method name params results _ pos => method name params results "" pos.eraseLine
  | embedded type? _ pos => embedded type? "" pos.eraseLine

/-- A type without the documentation and the lines in it. -/
def Declaration.Kind.eraseLayout : Declaration.Kind → Declaration.Kind
  | record fields => record (fields.map Field.eraseLayout)
  | contract members => contract (members.map Member.eraseLayout)
  | defined type => defined type

/-- A declaration without documentation and lines. -/
def Declaration.eraseLayout (d : Declaration) : Declaration :=
  { d with docs := "", pos := d.pos.eraseLine, kind := d.kind.eraseLayout }

/-! ## What is read of comments and tokens -/

/-- A comment that says the same some lines further down. -/
structure Comment.Mirrors (lines : Nat) (a b : Comment) : Prop where
  line_eq : b.line = a.line + lines
  content_eq : b.content = a.content

theorem Comment.content_blockAbove_of_mirrors {lines : Nat} {passed passed' : List Comment}
    (h : List.Forall₂ (Mirrors lines) passed passed') (line : Nat) :
    (blockAbove (line + lines) passed').map content = (blockAbove line passed).map content := by
  induction h generalizing line with
  | nil => rfl
  | @cons a b passed passed' hab _ ih =>
      have hline : b.line + 1 = line + lines ↔ a.line + 1 = line := by
        rw [hab.line_eq]
        omega
      rw [blockAbove, blockAbove]
      by_cases habove : a.line + 1 = line
      · rw [if_pos habove, if_pos (hline.mpr habove), List.map_cons, List.map_cons,
          hab.content_eq, hab.line_eq, ih]
      · rw [if_neg habove, if_neg (hline.not.mpr habove)]

theorem Comment.exists_mem_of_mirrors {lines : Nat} {passed passed' : List Comment}
    (h : List.Forall₂ (Mirrors lines) passed passed') {b : Comment} (hb : b ∈ passed') :
    ∃ a ∈ passed, b.line = a.line + lines := by
  induction h with
  | nil => cases hb
  | @cons a b' passed passed' hab _ ih =>
      rcases List.mem_cons.mp hb with rfl | hb
      · exact ⟨a, List.mem_cons_self, hab.line_eq⟩
      · obtain ⟨a', ha', hline⟩ := ih hb
        exact ⟨a', List.mem_cons_of_mem a ha', hline⟩

/-- Documentation goes down with what it is about. -/
theorem Comment.docs_of_mirrors {lines : Nat} {passed passed' : List Comment}
    (h : List.Forall₂ (Mirrors lines) passed passed') (line : Nat) :
    docs (line + lines) passed' = docs line passed := by
  rw [docs, docs, List.map_reverse, List.map_reverse, content_blockAbove_of_mirrors h]

/-- Words behind which a brace opens a type. -/
def OpensType (word : String) : Prop := word = "interface" ∨ word = "struct"

/-- A token that mirrors another one some lines further down.  A line end may stand in another
column, and a comment may be written in another way as long as it says the same. -/
structure Token.Mirrors (lines : Nat) (t u : Token) : Prop where
  kind_eq : u.kind = t.kind
  comment : Comment.Mirrors lines ⟨t.pos.line, t.text⟩ ⟨u.pos.line, u.text⟩
  text_eq (h : t.kind ≠ .comment) : u.text = t.text
  column_eq (h : t.isLayout = false) : u.pos.column = t.pos.column
  opensType_iff : OpensType u.text ↔ OpensType t.text

namespace Token

theorem mirrors_down (lines : Nat) (t : Token) : t.Mirrors lines (t.down lines) :=
  ⟨rfl, ⟨rfl, rfl⟩, fun _ => rfl, fun _ => rfl, Iff.rfl⟩

namespace Mirrors

variable {lines : Nat} {t u : Token}

theorem line_eq (h : t.Mirrors lines u) : u.pos.line = t.pos.line + lines := h.comment.line_eq

theorem is_eq (h : t.Mirrors lines u) : u.is = t.is := by
  funext text
  rw [Token.is, Token.is, h.kind_eq]
  cases hkind : t.kind with
  | comment | str => rfl
  | ident | number | newline | punct | finish =>
      rw [h.text_eq (by rw [hkind]; decide)]

theorem isSign_eq (h : t.Mirrors lines u) : u.isSign = t.isSign := by
  funext text
  rw [Token.isSign, Token.isSign, h.kind_eq]
  cases hkind : t.kind with
  | punct => rw [h.text_eq (by rw [hkind]; decide)]
  | ident | number | str | comment | newline | finish => rfl

theorem isLayout_eq (h : t.Mirrors lines u) : u.isLayout = t.isLayout := by
  rw [isLayout, isLayout, h.kind_eq]

/-- Of a token that is neither a line end nor a comment nothing may change but its line. -/
theorem eq_down (h : t.Mirrors lines u) (ht : t.isLayout = false) : u = t.down lines := by
  have htext : u.text = t.text := h.text_eq fun hkind => by
    rw [isLayout, hkind] at ht
    cases ht
  have hpos : u.pos = t.pos.down lines := by
    rw [Position.down, ← h.line_eq, ← h.column_eq ht]
  obtain ⟨kind, text, pos⟩ := u
  cases hpos
  cases htext
  obtain rfl : kind = t.kind := h.kind_eq
  rfl

theorem endsField_eq (h : t.Mirrors lines u) : Cursor.endsField u = Cursor.endsField t := by
  rw [Cursor.endsField, Cursor.endsField, h.kind_eq, h.is_eq]

theorem endsMember_eq (h : t.Mirrors lines u) : Cursor.endsMember u = Cursor.endsMember t := by
  rw [Cursor.endsMember, Cursor.endsMember, h.kind_eq, h.is_eq]

end Mirrors

end Token

namespace Cursor

/-! ## Cursors that mirror each other -/

/-- The text of some tokens up to a closing bracket, which is the length of an array. -/
def textToBracket? : List Token → Option String
  | [] => none
  | t :: tokens => if t.is "]" then some "" else (textToBracket? tokens).map (t.text ++ ·)

/-- Two texts that agree up to a token on which no construct goes on, with what follows it in the
first and in the second one.  The second text stands some lines further down. -/
structure Cut where
  lines : Nat
  /-- Which tokens of the second text agree with one of the first. -/
  alike : Token → Token → Prop
  mirrors {t u : Token} (h : alike t u) : t.Mirrors lines u
  stop : Token
  first : List Token
  second : List Token
  /-- Whether documentation is to be the same as well. -/
  documented : Prop
  stops : stop.kind = .newline ∧ stop.text = "\n" ∨ stop.IsEnd

/-- The cut of two texts that have the same tokens. -/
abbrev Cut.below (lines : Nat) (stop : Token) (first second : List Token) (documented : Prop)
    (stops : stop.kind = .newline ∧ stop.text = "\n" ∨ stop.IsEnd) : Cut where
  lines := lines
  alike t u := u = t.down lines
  mirrors h := h ▸ Token.mirrors_down lines _
  stop := stop
  first := first
  second := second
  documented := documented
  stops := stops

/-- Tokens that agree one by one.  Comments in brackets count as text, so there the texts have to be
the same. -/
inductive Cut.Alike (s : Cut) : List Token → List Token → Prop
  | nil : Alike s [] []
  | cons {t u : Token} {ts us : List Token} (head : s.alike t u)
      (bracket : t.is "[" → textToBracket? us = textToBracket? ts) (tail : Alike s ts us) :
      Alike s (t :: ts) (u :: us)

/-- The tokens up to the stop are alike for both cursors, and if documentation is to be the same, the
comments passed before say the same. -/
def Cut.Mirrors (s : Cut) (c d : Cursor) : Prop :=
  ∃ before mirrored, c.rest = before ++ s.stop :: s.first ∧ d.rest = mirrored ++ s.second ∧
    s.Alike (before ++ [s.stop]) mirrored ∧ d.lastLine = c.lastLine + s.lines ∧
    (s.documented → List.Forall₂ (Comment.Mirrors s.lines) c.passed d.passed)

/-- The same cut, with documentation left aside. -/
def Cut.undocumented (s : Cut) : Cut := { s with documented := False }

theorem Cut.is_stop_eq_false (s : Cut) {text : String} (h : text ≠ "\n") (hne : text ≠ "") :
    s.stop.is text = false := by
  rcases s.stops with ⟨hkind, htext⟩ | hend
  · rw [Token.is, hkind, htext]
    exact beq_eq_false_iff_ne.mpr h.symm
  · exact hend.is_eq_false hne

theorem Cut.ne_stop_of_is (s : Cut) {t : Token} {text : String} (h : t.is text)
    (htext : text ≠ "\n") (hne : text ≠ "") : t ≠ s.stop := by
  rintro rfl
  rw [s.is_stop_eq_false htext hne] at h
  cases h

theorem Cut.kind_stop_ne (s : Cut) {kind : Token.Kind} (hnewline : kind ≠ .newline)
    (hfinish : kind ≠ .finish) : s.stop.kind ≠ kind := by
  rcases s.stops with ⟨hkind, -⟩ | ⟨hkind, -⟩
  · rw [hkind]
    exact hnewline.symm
  · rw [hkind]
    exact hfinish.symm

/-! ### Tokens that are alike -/

theorem textToBracket?_map_down (lines : Nat) (tokens : List Token) :
    textToBracket? (tokens.map (Token.down lines)) = textToBracket? tokens := by
  induction tokens with
  | nil => rfl
  | cons t tokens ih =>
      rw [List.map_cons, textToBracket?, textToBracket?, ih]
      rfl

namespace Cut.Alike

variable {s : Cut} {ts us : List Token}

theorem length_eq (h : s.Alike ts us) : us.length = ts.length := by
  induction h with
  | nil => rfl
  | cons _ _ _ ih => rw [List.length_cons, List.length_cons, ih]

/-- The same tokens some lines further down are alike. -/
theorem of_map_down {lines : Nat} {stop : Token} {first second : List Token} {documented : Prop}
    {stops : stop.kind = .newline ∧ stop.text = "\n" ∨ stop.IsEnd} (tokens : List Token) :
    (Cut.below lines stop first second documented stops).Alike tokens
      (tokens.map (Token.down lines)) := by
  induction tokens with
  | nil => exact .nil
  | cons t tokens ih => exact .cons rfl (fun _ => textToBracket?_map_down lines tokens) ih

theorem eq_map_down {lines : Nat} {stop : Token} {first second : List Token} {documented : Prop}
    {stops : stop.kind = .newline ∧ stop.text = "\n" ∨ stop.IsEnd}
    (h : (Cut.below lines stop first second documented stops).Alike ts us) :
    us = ts.map (Token.down lines) := by
  induction h with
  | nil => rfl
  | cons head _ _ ih => exact congrArg₂ List.cons head ih

end Cut.Alike

theorem Cut.undocumented_alike_iff {s : Cut} {ts us : List Token} :
    s.undocumented.Alike ts us ↔ s.Alike ts us := by
  constructor
  · intro h
    induction h with
    | nil => exact .nil
    | cons head bracket _ ih => exact .cons head bracket ih
  · intro h
    induction h with
    | nil => exact .nil
    | cons head bracket _ ih => exact .cons head bracket ih

namespace Cut.Mirrors

variable {s : Cut} {c d e f : Cursor} {text : String} {t : Token}

theorem of_map_down {lines : Nat} {stop : Token} {first second : List Token} {documented : Prop}
    {stops : stop.kind = .newline ∧ stop.text = "\n" ∨ stop.IsEnd} {before : List Token}
    (hc : c.rest = before ++ stop :: first)
    (hd : d.rest = (before ++ [stop]).map (Token.down lines) ++ second)
    (hline : d.lastLine = c.lastLine + lines)
    (hpassed : documented → List.Forall₂ (Comment.Mirrors lines) c.passed d.passed) :
    (Cut.below lines stop first second documented stops).Mirrors c d :=
  ⟨before, _, hc, hd, .of_map_down _, hline, hpassed⟩

theorem length_lt_left (h : s.Mirrors c d) : s.first.length < c.left := by
  obtain ⟨before, mirrored, hc, -⟩ := h
  rw [left, hc, List.length_append, List.length_cons]
  omega

theorem undocumented (h : s.Mirrors c d) : s.undocumented.Mirrors c d := by
  obtain ⟨before, mirrored, hc, hd, halike, hline, -⟩ := h
  exact ⟨before, mirrored, hc, hd, undocumented_alike_iff.mpr halike, hline, False.elim⟩

/-- Forgotten comments may have been different. -/
theorem forget_of_undocumented (h : s.undocumented.Mirrors c d) : s.Mirrors c.forget d.forget := by
  obtain ⟨before, mirrored, hc, hd, halike, hline, -⟩ := h
  exact ⟨before, mirrored, hc, hd, undocumented_alike_iff.mp halike, hline, fun _ => .nil⟩

theorem forget (h : s.Mirrors c d) : s.Mirrors c.forget d.forget :=
  h.undocumented.forget_of_undocumented

theorem docs (h : s.Mirrors c d) (hdocs : s.documented) (line : Nat) :
    d.docs (line + s.lines) = c.docs line := by
  obtain ⟨before, mirrored, -, -, -, -, hpassed⟩ := h
  exact Comment.docs_of_mirrors (hpassed hdocs) line

/-- The next tokens are alike. -/
theorem exists_cons (h : s.Mirrors c d) : ∃ t u ts us, c.rest = t :: ts ∧ d.rest = u :: us ∧
    s.alike t u ∧ (t = s.stop ∧ ts = s.first ∨ ∃ before mirrored, ts = before ++ s.stop :: s.first ∧
      us = mirrored ++ s.second ∧ s.Alike (before ++ [s.stop]) mirrored) := by
  obtain ⟨before, mirrored, hc, hd, halike, -⟩ := h
  cases before with
  | nil =>
      cases halike with
      | cons head _ tail => exact ⟨_, _, _, _, hc, hd, head, .inl ⟨rfl, rfl⟩⟩
  | cons t before =>
      cases halike with
      | cons head _ tail =>
          exact ⟨_, _, _, _, hc, hd, head, .inr ⟨before, _, rfl, rfl, tail⟩⟩

theorem current (h : s.Mirrors c d) : c.current.Mirrors s.lines d.current := by
  obtain ⟨t, u, ts, us, hc, hd, halike, -⟩ := h.exists_cons
  rw [current_of_rest hc, current_of_rest hd]
  exact s.mirrors halike

/-- In front of the stop the token after the next one mirrors as well. -/
theorem ahead_one (h : s.Mirrors c d) (hc : c.current ≠ s.stop) :
    (c.ahead 1).Mirrors s.lines (d.ahead 1) := by
  obtain ⟨before, mirrored, hrest, hd, halike, -⟩ := h
  cases before with
  | nil => exact absurd (current_of_rest hrest) hc
  | cons t before =>
      rw [ahead, ahead, hrest, hd]
      cases halike with
      | cons _ _ tail => cases before <;> cases tail with | cons head _ _ => exact s.mirrors head

/-- Two tokens in front of the stop, and with them the one after. -/
theorem ahead_two (h : s.Mirrors c d) (hc : c.current ≠ s.stop) (hnext : c.ahead 1 ≠ s.stop) :
    (c.ahead 2).Mirrors s.lines (d.ahead 2) := by
  obtain ⟨before, mirrored, hrest, hd, halike, -⟩ := h
  cases before with
  | nil => exact absurd (current_of_rest hrest) hc
  | cons t before =>
      cases before with
      | nil =>
          refine absurd ?_ hnext
          rw [ahead, hrest]
          rfl
      | cons u before =>
          rw [ahead, ahead, hrest, hd]
          cases halike with
          | cons _ _ tail =>
              cases tail with
              | cons _ _ tail =>
                  cases before <;> cases tail with | cons head _ _ => exact s.mirrors head

/-- The next token has the same documentation. -/
theorem docs_current (h : s.Mirrors c d) (hdocs : s.documented) :
    d.docs d.current.pos.line = c.docs c.current.pos.line := by
  rw [h.current.line_eq, h.docs hdocs]

theorem isAtEnd (h : s.Mirrors c d) : d.isAtEnd = c.isAtEnd := by
  rw [Cursor.isAtEnd, Cursor.isAtEnd, h.current.kind_eq]

/-! ### Tokens -/

/-- The next token mirrors, also if it is the stop. -/
theorem past (h : s.Mirrors c d) {rest : List Token} (hrest : c.rest = t :: rest) :
    ∃ u us, d.rest = u :: us ∧ t.Mirrors s.lines u ∧
      (s.first.length < rest.length → s.Mirrors (c.past t rest) (d.past u us)) := by
  obtain ⟨t', u, ts, us, hc, hd, head, hafter⟩ := h.exists_cons
  obtain ⟨-, -, -, -, -, -, hpassed⟩ := h
  obtain ⟨rfl, rfl⟩ := List.cons_eq_cons.mp (hrest.symm.trans hc)
  have hmirrors := s.mirrors head
  refine ⟨u, us, hd, hmirrors, fun hlt => ?_⟩
  rcases hafter with ⟨-, rfl⟩ | ⟨before, mirrored, hts, hus, tail⟩
  · exact absurd hlt (Nat.lt_irrefl _)
  · exact ⟨before, mirrored, hts, hus, tail, hmirrors.line_eq, hpassed⟩

theorem next? (h : s.Mirrors c d) {hleft : e.left < c.left} (hnext : c.next? = some (t, ⟨e, hleft⟩)) :
    ∃ u f hf, d.next? = some (u, ⟨f, hf⟩) ∧ t.Mirrors s.lines u ∧
      (s.first.length < e.left → s.Mirrors e f) := by
  obtain ⟨hrest, hkind, hpast : e = c.past t e.rest⟩ := exists_rest_of_next? hnext
  obtain ⟨u, us, hd, hmirrors, hafter⟩ := h.past hrest
  obtain ⟨hf, hsome⟩ := next?_of_rest hd (hmirrors.kind_eq ▸ hkind)
  refine ⟨u, _, hf, hsome, hmirrors, fun he => ?_⟩
  rw [hpast]
  exact hafter he

theorem next?_eq_none (h : s.Mirrors c d) (hnext : c.next? = none) : d.next? = none := by
  have hkind : d.current.kind = .finish := by
    rw [h.current.kind_eq]
    by_contra hkind
    obtain ⟨t, -, rest, -, hrest, -⟩ := h.exists_cons
    rw [current_of_rest hrest] at hkind
    obtain ⟨hleft, hsome⟩ := next?_of_rest hrest hkind
    rw [hsome] at hnext
    cases hnext
  cases hsome : d.next? with
  | none => rfl
  | some r =>
      obtain ⟨hrest, hne, -⟩ := exists_rest_of_next? hsome
      rw [current_of_rest hrest] at hkind
      exact absurd hkind hne

theorem advance (h : s.Mirrors c d) (hc : s.first.length < c.advance.1.left) :
    s.Mirrors c.advance.1 d.advance.1 := by
  unfold Cursor.advance at hc ⊢
  cases hnext : c.next? with
  | none =>
      rw [h.next?_eq_none hnext]
      exact h
  | some r =>
      obtain ⟨t, e, he⟩ := r
      obtain ⟨u, f, hf, hnext', -, hef⟩ := h.next? hnext
      rw [hnext] at hc
      rw [hnext']
      exact hef hc

theorem eat?_eq_none (h : s.Mirrors c d) (heat : c.eat? text = none) : d.eat? text = none := by
  cases hsome : d.eat? text with
  | none => rfl
  | some r =>
      obtain ⟨t, u, ts, us, hc, hd, head, -⟩ := h.exists_cons
      have his := current_is_of_eat? hsome
      rw [current_of_rest hd, (s.mirrors head).is_eq] at his
      obtain ⟨hleft, hsome'⟩ := eat?_of_rest hc his
      rw [heat] at hsome'
      cases hsome'

theorem eat? (h : s.Mirrors c d) {hleft : e.left < c.left} (heat : c.eat? text = some ⟨e, hleft⟩)
    (he : s.first.length < e.left) : ∃ f hf, d.eat? text = some ⟨f, hf⟩ ∧ s.Mirrors e f := by
  obtain ⟨t, hrest, his, hpast : e = c.past t e.rest⟩ := exists_rest_of_eat? heat
  obtain ⟨u, us, hd, hmirrors, hafter⟩ := h.past hrest
  obtain ⟨hf, hsome⟩ := eat?_of_rest hd (hmirrors.is_eq ▸ his)
  refine ⟨_, hf, hsome, ?_⟩
  rw [hpast]
  exact hafter he

theorem eatIf (h : s.Mirrors c d) {taken : Bool} {hleft : e.left ≤ c.left}
    (heat : c.eatIf text = (taken, ⟨e, hleft⟩)) (he : s.first.length < e.left) :
    ∃ f hf, d.eatIf text = (taken, ⟨f, hf⟩) ∧ s.Mirrors e f := by
  unfold Cursor.eatIf at heat ⊢
  cases hsome : c.eat? text with
  | none =>
      rw [hsome] at heat
      cases heat
      rw [h.eat?_eq_none hsome]
      exact ⟨_, _, rfl, h⟩
  | some r =>
      rw [hsome] at heat
      cases heat
      obtain ⟨f, hf, hsome', hef⟩ := h.eat? hsome he
      rw [hsome']
      exact ⟨_, _, rfl, hef⟩

theorem expect (h : s.Mirrors c d) {hleft : e.left < c.left}
    (hread : c.expect text = .ok ⟨e, hleft⟩) (he : s.first.length < e.left) :
    ∃ f hf, d.expect text = .ok ⟨f, hf⟩ ∧ s.Mirrors e f := by
  unfold Cursor.expect at hread ⊢
  cases hsome : c.eat? text with
  | none =>
      rw [hsome] at hread
      cases hread
  | some r =>
      rw [hsome] at hread
      cases hread
      obtain ⟨f, hf, hsome', hef⟩ := h.eat? hsome he
      rw [hsome']
      exact ⟨_, _, rfl, hef⟩

theorem expectIdent (h : s.Mirrors c d) {hleft : e.left < c.left}
    (hread : c.expectIdent = .ok (t, ⟨e, hleft⟩)) (he : s.first.length < e.left) :
    ∃ f hf, d.expectIdent = .ok (t.down s.lines, ⟨f, hf⟩) ∧ s.Mirrors e f := by
  unfold Cursor.expectIdent at hread
  cases hnext : c.next? with
  | none =>
      rw [hnext] at hread
      cases hread
  | some r =>
      obtain ⟨u, r⟩ := r
      rw [hnext] at hread
      dsimp only at hread
      split at hread
      · next hkind =>
        cases hread
        obtain ⟨v, f, hf, hnext', hv, hef⟩ := h.next? hnext
        have hv : v = t.down s.lines := hv.eq_down (by rw [Token.isLayout, hkind]; decide)
        refine ⟨f, hf, ?_, hef he⟩
        rw [Cursor.expectIdent, hnext', hv]
        exact if_pos hkind
      · cases hread

/-! ### Comments and line ends -/

theorem skipTrivia (h : s.Mirrors c d) (hc : s.first.length < c.skipTrivia.left) :
    s.Mirrors c.skipTrivia d.skipTrivia := by
  fun_induction Cursor.skipTrivia c generalizing d with
  | case1 c hrest =>
      have hlength := h.length_lt_left
      rw [left, hrest] at hlength
      cases hlength
  | case2 c t rest hrest _ hkind ih =>
      obtain ⟨t', u, ts, us, heq, hd, head, hafter⟩ := h.exists_cons
      obtain ⟨-, -, -, -, -, -, hpassed⟩ := h
      obtain ⟨rfl, rfl⟩ := List.cons_eq_cons.mp (hrest.symm.trans heq)
      have hmirrors := s.mirrors head
      rcases hafter with ⟨rfl, -⟩ | ⟨before, mirrored, hts, hus, tail⟩
      · exact absurd hkind (s.kind_stop_ne (by decide) (by decide))
      · rw [skipTrivia_of_rest hd, hmirrors.kind_eq, if_pos hkind]
        exact ih ⟨before, mirrored, hts, hus, tail, hmirrors.line_eq,
          fun hdocs => .cons hmirrors.comment (hpassed hdocs)⟩ hc
  | case3 c t rest hrest _ hkind hskipped ih =>
      obtain ⟨t', u, ts, us, heq, hd, head, hafter⟩ := h.exists_cons
      obtain ⟨-, -, -, -, -, -, hpassed⟩ := h
      obtain ⟨rfl, rfl⟩ := List.cons_eq_cons.mp (hrest.symm.trans heq)
      have hmirrors := s.mirrors head
      rcases hafter with ⟨rfl, rfl⟩ | ⟨before, mirrored, hts, hus, tail⟩
      · have hle := (c.past s.stop s.first).left_skipTrivia_le
        exact absurd (Nat.lt_of_lt_of_le hc hle) (Nat.lt_irrefl _)
      · rw [skipTrivia_of_rest hd, hmirrors.kind_eq, hmirrors.text_eq hkind, if_neg hkind,
          if_pos hskipped]
        exact ih ⟨before, mirrored, hts, hus, tail, hmirrors.line_eq, hpassed⟩ hc
  | case4 c t rest hrest _ hkind hskipped =>
      obtain ⟨t', u, ts, us, heq, hd, head, -⟩ := h.exists_cons
      obtain ⟨rfl, rfl⟩ := List.cons_eq_cons.mp (hrest.symm.trans heq)
      have hmirrors := s.mirrors head
      rw [skipTrivia_of_rest hd, hmirrors.kind_eq, hmirrors.text_eq hkind, if_neg hkind,
        if_neg hskipped]
      exact h

theorem skipTrailingComment (h : s.Mirrors c d) :
    s.Mirrors c.skipTrailingComment d.skipTrailingComment := by
  obtain ⟨t, u, ts, us, hc, hd, head, hafter⟩ := h.exists_cons
  have hmirrors := s.mirrors head
  have hline : d.lastLine = c.lastLine + s.lines := by
    obtain ⟨-, -, -, -, -, hline, -⟩ := h
    exact hline
  have htrailing : u.kind = .comment ∧ u.pos.line = d.lastLine ↔
      t.kind = .comment ∧ t.pos.line = c.lastLine := by
    rw [hline, hmirrors.kind_eq, hmirrors.line_eq]
    exact and_congr_right fun _ => Nat.add_right_cancel_iff
  rw [skipTrailingComment_of_rest hc, skipTrailingComment_of_rest hd]
  simp only [htrailing]
  split
  · next hcomment =>
    rcases hafter with ⟨rfl, -⟩ | ⟨before, mirrored, hts, hus, tail⟩
    · exact absurd hcomment.1 (s.kind_stop_ne (by decide) (by decide))
    · obtain ⟨-, -, -, -, -, -, hpassed⟩ := h
      exact ⟨before, mirrored, hts, hus, tail, hmirrors.line_eq, hpassed⟩
  · exact h

/-! ### Passing over what is not read -/

theorem skipBalanced {c d e : Cursor} (h : s.Mirrors c d) {opening closing : String}
    {depth : Nat} {hleft : e.left < c.left} (hread : c.skipBalanced opening closing depth = .ok ⟨e, hleft⟩)
    (he : s.first.length < e.left) :
    ∃ f hf, d.skipBalanced opening closing depth = .ok ⟨f, hf⟩ ∧ s.Mirrors e f := by
  rw [Cursor.skipBalanced] at hread ⊢
  cases hnext : c.next? with
  | none =>
      rw [hnext] at hread
      cases hread
  | some r =>
      obtain ⟨t, c', hc'⟩ := r
      rw [hnext] at hread
      obtain ⟨u, d', hd', hnext', hu, hmirrors⟩ := h.next? hnext
      rw [hnext']
      dsimp only at hread ⊢
      -- what comes after the token is passed in the second text by recursion
      have hmore {n : Nat} {r : Cursor} {hr : r.left < c'.left}
          (hrest : c'.skipBalanced opening closing n = .ok ⟨r, hr⟩)
          (hlt : s.first.length < r.left) :
          ∃ f hf, d'.skipBalanced opening closing n = .ok ⟨f, hf⟩ ∧ s.Mirrors r f :=
        skipBalanced (hmirrors (Nat.lt_trans hlt hr)) hrest hlt
      rw [hu.is_eq]
      split at hread
      · next hopening =>
        obtain ⟨⟨r, hr⟩, hrest, hread⟩ := ok_of_bind_iff.mp hread
        cases hread
        obtain ⟨f, hf, hrest', hef⟩ := hmore hrest he
        rw [if_pos hopening, hrest', ok_bind]
        exact ⟨_, _, rfl, hef⟩
      · next hopening =>
        rw [if_neg hopening]
        split at hread
        · next hclosing =>
          rw [if_pos hclosing]
          cases depth with
          | zero =>
              cases hread
              exact ⟨_, _, rfl, hmirrors he⟩
          | succ depth =>
              obtain ⟨⟨r, hr⟩, hrest, hread⟩ := ok_of_bind_iff.mp hread
              cases hread
              obtain ⟨f, hf, hrest', hef⟩ := hmore hrest he
              dsimp only
              rw [hrest', ok_bind]
              exact ⟨_, _, rfl, hef⟩
        · next hclosing =>
          obtain ⟨⟨r, hr⟩, hrest, hread⟩ := ok_of_bind_iff.mp hread
          cases hread
          obtain ⟨f, hf, hrest', hef⟩ := hmore hrest he
          rw [if_neg hclosing, hrest', ok_bind]
          exact ⟨_, _, rfl, hef⟩
termination_by c.left

theorem skipStatement {c d : Cursor} (h : s.Mirrors c d) {depth : Nat}
    (he : s.first.length < (c.skipStatement depth).1.left) :
    s.Mirrors (c.skipStatement depth).1 (d.skipStatement depth).1 := by
  cases hnext : c.next? with
  | none =>
      rw [skipStatement_of_none hnext, skipStatement_of_none (h.next?_eq_none hnext)]
      exact h
  | some r =>
      obtain ⟨t, c', hc'⟩ := r
      obtain ⟨u, d', hd', hnext', hu, hmirrors⟩ := h.next? hnext
      have hdepth : depthInStatement depth u = depthInStatement depth t := by
        rw [depthInStatement, depthInStatement, hu.isSign_eq]
      rw [skipStatement_of_next? hnext] at he
      rw [skipStatement_of_next? hnext, skipStatement_of_next? hnext', hu.kind_eq, hu.isSign_eq,
        hdepth]
      by_cases hends : (t.kind = .newline ∨ t.isSign ";") ∧ depth = 0
      · rw [if_pos hends, if_pos hends]
        exact h
      · rw [if_neg hends] at he
        rw [if_neg hends, if_neg hends]
        have hle := (c'.skipStatement (depthInStatement depth t)).2
        exact skipStatement (hmirrors (Nat.lt_of_lt_of_le he hle)) he
termination_by c.left

/-- A function is passed in the same way.  Of the words before it matters only whether they open a
type. -/
theorem skipFunction {c d e : Cursor} (h : s.Mirrors c d) {depth : Nat} {word word' : String}
    (hword : OpensType word' ↔ OpensType word) {hleft : e.left ≤ c.left}
    (hread : c.skipFunction depth word = .ok ⟨e, hleft⟩) (he : s.first.length < e.left) :
    ∃ f hf, d.skipFunction depth word' = .ok ⟨f, hf⟩ ∧ s.Mirrors e f := by
  have hopens : depth = 0 ∧ word' ≠ "interface" ∧ word' ≠ "struct" ↔
      depth = 0 ∧ word ≠ "interface" ∧ word ≠ "struct" := by
    rw [← not_or, ← not_or]
    exact and_congr_right fun _ => not_congr hword
  rw [Cursor.skipFunction] at hread ⊢
  cases hnext : c.next? with
  | none =>
      rw [hnext] at hread
      cases hread
      rw [h.next?_eq_none hnext]
      exact ⟨_, _, rfl, h⟩
  | some r =>
      obtain ⟨t, c', hc'⟩ := r
      rw [hnext] at hread
      obtain ⟨u, d', hd', hnext', hu, hmirrors⟩ := h.next? hnext
      rw [hnext']
      dsimp only at hread ⊢
      rw [hu.kind_eq, hu.is_eq]
      split at hread
      · next hends =>
        cases hread
        rw [if_pos hends]
        exact ⟨_, _, rfl, h⟩
      · next hends =>
        rw [if_neg hends]
        split at hread
        · next hbrace =>
          obtain ⟨⟨b, hb⟩, hbody, hread⟩ := ok_of_bind_iff.mp hread
          rw [if_pos hbrace]
          dsimp only at hread
          split at hread
          · next hlast =>
            cases hread
            obtain ⟨f, hf, hbody', hef⟩ := (hmirrors (Nat.lt_trans he hb)).skipBalanced hbody he
            rw [hbody', ok_bind]
            dsimp only
            rw [if_pos (hopens.mpr hlast)]
            exact ⟨_, _, rfl, hef⟩
          · next hlast =>
            obtain ⟨⟨r, hr⟩, hrest, hread⟩ := ok_of_bind_iff.mp hread
            cases hread
            have hlt := Nat.lt_of_lt_of_le he hr
            obtain ⟨b', hb', hbody', hbb'⟩ :=
              (hmirrors (Nat.lt_trans hlt hb)).skipBalanced hbody hlt
            obtain ⟨f, hf, hrest', hef⟩ := skipFunction hbb' hu.opensType_iff hrest he
            rw [hbody', ok_bind]
            dsimp only
            rw [if_neg (hopens.not.mpr hlast), hrest', ok_bind]
            exact ⟨_, _, rfl, hef⟩
        · next hbrace =>
          obtain ⟨⟨r, hr⟩, hrest, hread⟩ := ok_of_bind_iff.mp hread
          cases hread
          have hlt := Nat.lt_of_lt_of_le he hr
          obtain ⟨f, hf, hrest', hef⟩ := skipFunction (hmirrors hlt) hu.opensType_iff hrest he
          rw [if_neg hbrace, hrest', ok_bind]
          exact ⟨_, _, rfl, hef⟩
termination_by c.left

end Cut.Mirrors

end Cursor

end GoSchema.Go
