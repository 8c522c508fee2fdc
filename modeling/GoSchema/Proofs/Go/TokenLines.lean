import GoSchema.Proofs.Go.Pieces
import GoSchema.Proofs.Text.Classes
import GoSchema.Proofs.Text.Lines
import Mathlib.Data.List.Chain

/-!
# The lines that tokens stand on

What a reader makes of comments depends on lines, and lines depend on line ends, which are tokens
themselves.  So it is enough to know how a token and the next one are related (`Follows`):

* lines only go up, and a line end goes up to the next line;
* a line comment is followed by the end of its line;
* a comment that has its line for itself (`StandsAlone`) is behind the end of another line.

All of it is read off the tiling of a text (`laidOut_of_scan`), where between two tokens there is a
gap of blanks and block comments.  The last point is the one that needs the text: a token or a block
comment in front of the comment, if it ends on the same line, leaves a mark there that is no white
space.
-/

namespace GoSchema.Go

open Lexeme Text

/-! ## Lines of a text -/

/-- A line of a text.  Lines are counted from one, without their ends. -/
def lineOf (text : List Char) (line : Nat) : List Char := (text.splitOn '\n').getD (line - 1) []

/-- A comment that has its line for itself: but for white space in front, it is the line. -/
def Token.StandsAlone (text : List Char) (t : Token) : Prop :=
  t.kind = .comment ∧ (lineOf text t.pos.line).dropWhile isWhite = t.text.toList

instance (text : List Char) (t : Token) : Decidable (t.StandsAlone text) :=
  inferInstanceAs (Decidable (_ ∧ _))

/-- What is behind the last line end of a text. -/
def lastLine (s : List Char) : List Char := (s.reverse.takeWhile (· != '\n')).reverse

theorem lastLine_concat {c : Char} (h : c ≠ '\n') (s : List Char) :
    lastLine (s ++ [c]) = lastLine s ++ [c] := by
  rw [lastLine, List.reverse_concat, List.takeWhile_cons_of_pos (by simpa using h),
    List.reverse_cons, lastLine]

theorem lastLine_concat_lineEnd (s : List Char) : lastLine (s ++ ['\n']) = [] := by
  rw [lastLine, List.reverse_concat, List.takeWhile_cons_of_neg (by decide), List.reverse_nil]

/-- A text without line ends goes on with the last line. -/
theorem lastLine_append {s : List Char} (h : '\n' ∉ s) (before : List Char) :
    lastLine (before ++ s) = lastLine before ++ s := by
  induction s generalizing before with
  | nil => rw [List.append_nil, List.append_nil]
  | cons c s ih =>
      obtain ⟨hc, hs⟩ := not_or.mp (List.mem_cons.not.mp h)
      rw [← List.singleton_append, ← List.append_assoc, ih hs, lastLine_concat (Ne.symm hc),
        List.append_assoc]

theorem lastLine_append_cons (first rest : List Char) :
    lastLine (first ++ '\n' :: rest) = lastLine rest := by
  induction rest using List.reverseRecOn with
  | nil => rw [lastLine_concat_lineEnd]; rfl
  | append_singleton rest c ih =>
      rw [← List.cons_append, ← List.append_assoc]
      by_cases hc : c = '\n'
      · subst hc
        rw [lastLine_concat_lineEnd, lastLine_concat_lineEnd]
      · rw [lastLine_concat hc, lastLine_concat hc, ih]

theorem takeWhile_line {s : List Char} (h : '\n' ∉ s) (rest : List Char) :
    (s ++ rest).takeWhile (· != '\n') = s ++ rest.takeWhile (· != '\n') :=
  List.takeWhile_append_of_pos fun c hc => by simpa using fun heq : c = '\n' => h (heq ▸ hc)

theorem head_splitOn (s : List Char) : (s.splitOn '\n').getD 0 [] = s.takeWhile (· != '\n') := by
  by_cases h : '\n' ∈ s
  · obtain ⟨first, rest, rfl, hfirst⟩ := List.eq_append_cons_of_mem h
    rw [splitOn_append_cons, splitOn_eq_singleton hfirst, takeWhile_line hfirst,
      List.takeWhile_cons_of_neg (by decide), List.append_nil]
    rfl
  · have hall := takeWhile_line h []
    rw [List.append_nil] at hall
    rw [splitOn_eq_singleton h, hall, List.takeWhile_nil, List.append_nil]
    rfl

/-- The line at a place of a text: what is in front of the place, and what is behind it up to the
end of the line. -/
theorem lineOf_append (before s : List Char) :
    lineOf (before ++ s) (Position.behind before).line =
      lastLine before ++ s.takeWhile (· != '\n') := by
  have hline : (Position.behind before).line - 1 = before.count '\n' := Nat.add_sub_cancel_left ..
  rw [lineOf, hline]
  induction hlength : before.length using Nat.strong_induction_on generalizing before with
  | _ n ih =>
      subst hlength
      by_cases h : '\n' ∈ before
      · obtain ⟨first, rest, rfl, hfirst⟩ := List.eq_append_cons_of_mem h
        have hcount : (first ++ '\n' :: rest).count '\n' = rest.count '\n' + 1 := by
          rw [List.count_append, List.count_eq_zero_of_not_mem hfirst, List.count_cons_self,
            Nat.zero_add]
        rw [List.append_assoc, List.cons_append, splitOn_append_cons, splitOn_eq_singleton hfirst,
          hcount, lastLine_append_cons, List.singleton_append, List.getD_cons_succ]
        refine ih rest.length ?_ rest (Nat.add_sub_cancel_left ..) rfl
        rw [List.length_append, List.length_cons]
        omega
      · have hlast := lastLine_append h []
        rw [List.nil_append] at hlast
        rw [List.count_eq_zero_of_not_mem h, head_splitOn, takeWhile_line h, hlast]
        rfl

/-! ## What is in front of a comment on its line -/

/-- Only white space is behind the last line end of a text. -/
def EndsBlank (s : List Char) : Prop := ∀ c ∈ lastLine s, isWhite c

theorem EndsBlank.of_append {before s : List Char} (h : EndsBlank (before ++ s)) (hs : '\n' ∉ s) :
    EndsBlank before ∧ ∀ c ∈ s, isWhite c := by
  rw [EndsBlank, lastLine_append hs] at h
  exact List.forall_mem_append.mp h

theorem not_endsBlank_concat {c : Char} (hc : isWhite c = false) (s : List Char) :
    ¬EndsBlank (s ++ [c]) := by
  intro h
  have hline : c ≠ '\n' := by
    rintro rfl
    exact absurd hc (by decide)
  have hwhite := (h.of_append (by simpa using Ne.symm hline)).2 c (List.mem_singleton_self c)
  rw [hc] at hwhite
  cases hwhite

/-- A gap is blank, or there are only blanks behind its last block comment. -/
theorem IsGap.blank_or_comment {s : List Char} (h : IsGap s) :
    (∀ c ∈ s, isBlank c) ∨ ∃ before blanks, s = before ++ '/' :: blanks ∧ ∀ c ∈ blanks, isBlank c := by
  induction h with
  | nil => exact .inl (List.forall_mem_nil _)
  | @blank c s hblank _ ih =>
      rcases ih with ih | ⟨before, blanks, rfl, hblanks⟩
      · exact .inl (List.forall_mem_cons.mpr ⟨hblank, ih⟩)
      · exact .inr ⟨c :: before, blanks, rfl, hblanks⟩
  | @comment body s hbody _ ih =>
      rcases ih with ih | ⟨before, blanks, rfl, hblanks⟩
      · exact .inr ⟨'/' :: '*' :: (body ++ ['*']), s, by simp, ih⟩
      · exact .inr ⟨'/' :: '*' :: (body ++ '*' :: '/' :: before), blanks, by simp, hblanks⟩

theorem lineEnd_notMem_of_isBlank {s : List Char} (h : ∀ c ∈ s, isBlank c) : '\n' ∉ s := fun hmem =>
  absurd (h _ hmem) (by decide)

/-- If only white space is behind the last line end, a gap at the end does not hold more. -/
theorem EndsBlank.of_append_gap {before gap : List Char} (h : EndsBlank (before ++ gap))
    (hgap : IsGap gap) : EndsBlank before := by
  rcases hgap.blank_or_comment with hblank | ⟨first, blanks, rfl, hblanks⟩
  · exact (h.of_append (lineEnd_notMem_of_isBlank hblank)).1
  · rw [← List.singleton_append, ← List.append_assoc, ← List.append_assoc] at h
    exact absurd (h.of_append (lineEnd_notMem_of_isBlank hblanks)).1
      (not_endsBlank_concat (by decide) _)

/-! ## Tokens end with a mark -/

theorem apart_letters_whiteSpace : ∀ k ∈ Category.letters, apart k.runs whiteSpaceRuns := by
  decide +kernel

theorem apart_numbers_whiteSpace : ∀ k ∈ Category.numbers, apart k.runs whiteSpaceRuns := by
  decide +kernel

theorem isWhite_eq_false_of_includes {k : Category} {c : Char}
    (hk : k ∈ Category.letters ∨ k ∈ Category.numbers) (h : k.includes c) : isWhite c = false := by
  have hcovered : covered k.runs c.toNat := by
    cases k <;> first | exact h | exact absurd hk (by decide)
  rcases hk with hk | hk
  · exact not_covered_of_apart (apart_letters_whiteSpace k hk) hcovered
  · exact not_covered_of_apart (apart_numbers_whiteSpace k hk) hcovered

theorem isWhite_eq_false_of_isLetter {c : Char} (h : isLetter c) : isWhite c = false := by
  obtain ⟨k, hk, hincludes⟩ := List.any_eq_true.mp h
  exact isWhite_eq_false_of_includes (.inl hk) hincludes

theorem isWhite_eq_false_of_isIdentPart {c : Char} (h : isIdentPart c) : isWhite c = false := by
  simp only [isIdentPart, Bool.or_eq_true, beq_iff_eq] at h
  rcases h with (h | h) | rfl
  · exact isWhite_eq_false_of_isLetter h
  · obtain ⟨k, hk, hincludes⟩ := List.any_eq_true.mp h
    exact isWhite_eq_false_of_includes (.inr hk) hincludes
  · decide

theorem isWhite_eq_false_of_isIdentStart {c : Char} (h : isIdentStart c) : isWhite c = false := by
  simp only [isIdentStart, Bool.or_eq_true, beq_iff_eq] at h
  rcases h with h | rfl
  · exact isWhite_eq_false_of_isLetter h
  · decide

theorem isWhite_eq_false_of_isDecimalDigit {c : Char} (h : isDecimalDigit c) : isWhite c = false :=
  isWhite_eq_false_of_includes (.inr (by decide)) h

/-- A character of the Latin script that is visible. -/
def isVisible (c : Char) : Bool := 0x21 ≤ c.toNat && c.toNat < 0x7f

theorem isWhite_eq_false_of_isVisible {c : Char} (h : isVisible c) : isWhite c = false := by
  simp only [isVisible, Bool.and_eq_true, decide_eq_true_eq] at h
  simp only [isWhite, covered, whiteSpaceRuns, Run.covers]
  grind

theorem isVisible_of_isNumberPart {c : Char} (h : isNumberPart c || c == '.') : isVisible c := by
  have hrange {low high : UInt32} (hle : c.val ≥ low) (hle' : c.val ≤ high)
      (hlow : 0x21 ≤ low.toNat) (hhigh : high.toNat < 0x7f) : isVisible c := by
    have hle : low.toNat ≤ c.toNat := UInt32.le_iff_toNat_le.mp hle
    have hle' : c.toNat ≤ high.toNat := UInt32.le_iff_toNat_le.mp hle'
    simp only [isVisible, Bool.and_eq_true, decide_eq_true_eq]
    omega
  rcases Bool.or_eq_true_iff.mp h with hpart | hpoint
  · rcases Bool.or_eq_true_iff.mp hpart with halphanum | hunderscore
    · rcases Bool.or_eq_true_iff.mp halphanum with halpha | hdigit
      · rcases Bool.or_eq_true_iff.mp halpha with hupper | hlower
        · obtain ⟨hle, hle'⟩ := of_decide_eq_true hupper
          exact hrange hle hle' (by decide) (by decide)
        · obtain ⟨hle, hle'⟩ := Bool.and_eq_true_iff.mp hlower
          exact hrange (of_decide_eq_true hle) (of_decide_eq_true hle') (by decide) (by decide)
      · obtain ⟨hle, hle'⟩ := Bool.and_eq_true_iff.mp hdigit
        exact hrange (of_decide_eq_true hle) (of_decide_eq_true hle') (by decide) (by decide)
    · rw [beq_iff_eq.mp hunderscore]
      rfl
  · rw [beq_iff_eq.mp hpoint]
    rfl

theorem exists_concat_of_forall {s : List Char} (hne : s ≠ [])
    (h : ∀ c ∈ s, isWhite c = false) : ∃ init c, s = init ++ [c] ∧ isWhite c = false := by
  obtain rfl | ⟨init, c, rfl⟩ := List.eq_nil_or_concat s
  · exact absurd rfl hne
  · rw [List.concat_eq_append] at h ⊢
    exact ⟨init, c, rfl, h c (by simp)⟩

/-- Comments and line ends apart, the text of a token ends with a character that is no white space. -/
theorem exists_concat_of_form {kind : Token.Kind} {s : List Char} (h : Form (some kind) s)
    (hcomment : kind ≠ .comment) (hnewline : kind ≠ .newline) :
    ∃ init c, s = init ++ [c] ∧ isWhite c = false := by
  cases h with
  | lineComment => exact absurd rfl hcomment
  | @rawString body => exact ⟨'\x60' :: body, '\x60', rfl, by decide⟩
  | @string body => exact ⟨'"' :: body, '"', rfl, by decide⟩
  | @rune body => exact ⟨'\'' :: body, '\'', rfl, by decide⟩
  | @operator op hop =>
      have hvisible : operators.all fun op => !op.toList.isEmpty && op.toList.all isVisible := by
        decide
      obtain ⟨hne, hvisible⟩ := Bool.and_eq_true_iff.mp (List.all_eq_true.mp hvisible op hop)
      refine exists_concat_of_forall (by simpa using hne) fun c hc => ?_
      exact isWhite_eq_false_of_isVisible (List.all_eq_true.mp hvisible c hc)
  | word hstart hrest =>
      exact exists_concat_of_forall (List.cons_ne_nil _ _) (List.forall_mem_cons.mpr
        ⟨isWhite_eq_false_of_isIdentStart hstart,
          fun c hc => isWhite_eq_false_of_isIdentPart (hrest c hc)⟩)
  | number hstart hrest =>
      exact exists_concat_of_forall (List.cons_ne_nil _ _) (List.forall_mem_cons.mpr
        ⟨isWhite_eq_false_of_isDecimalDigit hstart,
          fun c hc => isWhite_eq_false_of_isVisible (isVisible_of_isNumberPart (hrest c hc))⟩)
  | fraction hstart hrest =>
      refine exists_concat_of_forall (List.cons_ne_nil _ _) (List.forall_mem_cons.mpr
        ⟨by decide, List.forall_mem_cons.mpr ⟨isWhite_eq_false_of_isDecimalDigit hstart, ?_⟩⟩)
      exact fun c hc => isWhite_eq_false_of_isVisible
        (isVisible_of_isNumberPart (Bool.or_eq_true_iff.mpr (.inl (hrest c hc))))
  | newline => exact absurd rfl hnewline
  | @sign c hc =>
      have hvisible : signs.all isVisible := by decide
      exact ⟨[], c, rfl, isWhite_eq_false_of_isVisible (List.all_eq_true.mp hvisible c hc)⟩

/-! ## Neighbours -/

/-- The order of places in a text. -/
def Position.Before (p q : Position) : Prop :=
  p.line < q.line ∨ p.line = q.line ∧ p.column < q.column

theorem Position.Before.line_le {p q : Position} (h : p.Before q) : p.line ≤ q.line :=
  h.elim Nat.le_of_lt fun h => Nat.le_of_eq h.1

theorem Position.Before.trans {p q r : Position} (h : p.Before q) (h' : q.Before r) :
    p.Before r := by
  unfold Before at *
  omega

theorem Position.before_next (p : Position) (c : Char) : p.Before (p.next c) := by
  unfold next
  split
  · exact .inl (Nat.lt_succ_self _)
  · exact .inr ⟨rfl, Nat.lt_succ_self _⟩

theorem Position.before_after (p : Position) {s : List Char} (h : s ≠ []) :
    p.Before (p.after s) := by
  induction s generalizing p with
  | nil => exact absurd rfl h
  | cons c s ih =>
      by_cases hs : s = []
      · subst hs
        exact p.before_next c
      · exact (p.before_next c).trans (ih _ hs)

/-- What is known of a token and the next one. -/
structure Follows (text : List Char) (t next : Token) : Prop where
  ne_finish : t.kind ≠ .finish
  before : t.pos.Before next.pos
  of_newline (h : t.kind = .newline) : t.pos.line < next.pos.line
  of_comment (h : t.kind = .comment) :
    (next.kind = .newline ∨ next.kind = .finish) ∧ next.pos.line = t.pos.line
  of_standsAlone (h : next.StandsAlone text) : t.kind = .newline

theorem line_behind_append (before s : List Char) :
    (Position.behind (before ++ s)).line = (Position.behind before).line + s.count '\n' := by
  rw [Position.behind, Position.behind, List.count_append, Nat.add_assoc]

theorem Lexeme.Stands.ne_nil {kind? : Option Token.Kind} {s rest : List Char}
    (h : Stands kind? s rest) : s ≠ [] :=
  List.length_pos_iff.mp (size_pos h)

/-- At a line end there is the token of it and no other. -/
theorem Lexeme.Stands.lineEnd {kind : Token.Kind} {s rest more : List Char}
    (h : Stands (some kind) s rest) (heq : s ++ rest = '\n' :: more) : kind = .newline := by
  have hend : atStart? ('\n' :: more) = some ⟨1, some .newline⟩ := stands_lineEnd more
  rw [Stands, heq, hend] at h
  exact (Option.some.inj (congrArg Lexeme.kind? (Option.some.inj h))).symm

theorem Lexeme.Form.exists_body_of_comment {s : List Char} (h : Form (some .comment) s) :
    ∃ body, s = '/' :: '/' :: body ∧ '\n' ∉ body := by
  generalize hkind : some Token.Kind.comment = kind? at h
  cases h with
  | @lineComment body hbody => exact ⟨body, rfl, hbody⟩
  | number => split at hkind <;> cases hkind
  | _ => cases hkind

theorem Lexeme.Form.eq_of_newline {s : List Char} (h : Form (some .newline) s) : s = ['\n'] := by
  generalize hkind : some Token.Kind.newline = kind? at h
  cases h with
  | newline => rfl
  | number => split at hkind <;> cases hkind
  | _ => cases hkind

/-- A comment takes all that is left of its line. -/
theorem Lexeme.Stands.comment {s rest : List Char} (h : Stands (some .comment) s rest) :
    ∃ body, s = '/' :: '/' :: body ∧ '\n' ∉ body ∧ (rest = [] ∨ ∃ more, rest = '\n' :: more) := by
  obtain ⟨body, rfl, hbody⟩ := h.form.exists_body_of_comment
  refine ⟨body, rfl, hbody, ?_⟩
  cases rest with
  | nil => exact .inl rfl
  | cons c more =>
      refine .inr ⟨more, ?_⟩
      by_contra hc
      have hc : c ≠ '\n' := fun heq => hc (by rw [heq])
      have hfound : atStart? ('/' :: '/' :: (body ++ c :: more)) =
          some ⟨run (· != '\n') (body ++ c :: more) + 2, some .comment⟩ := rfl
      have hsize : run (· != '\n') (body ++ c :: more) + 2 = body.length + 2 :=
        congrArg Lexeme.size (Option.some.inj (hfound.symm.trans h))
      rw [run, takeWhile_line hbody, List.takeWhile_cons_of_pos (by simpa using hc),
        List.length_append, List.length_cons] at hsize
      omega

theorem IsGap.append {s rest : List Char} (h : IsGap s) (hrest : IsGap rest) :
    IsGap (s ++ rest) := by
  induction h with
  | nil => exact hrest
  | blank hblank _ ih => exact .blank hblank ih
  | comment hbody _ ih =>
      rw [List.cons_append, List.cons_append, List.append_assoc]
      exact .comment hbody ih

theorem IsGap.eq_nil_of_lineEnd {s rest more : List Char} (h : IsGap s)
    (heq : s ++ rest = '\n' :: more) : s = [] := by
  cases h with
  | nil => rfl
  | blank hblank =>
      cases heq
      exact absurd hblank (by decide)
  | comment => cases heq

/-- A token ends a tiling but for a gap behind it. -/
def EndsTiling (u : Token) (before rest : List Char) : Prop :=
  ∃ start gap, before = start ++ (u.text.toList ++ gap) ∧ u.pos = .behind start ∧ IsGap gap ∧
    Stands (some u.kind) u.text.toList (gap ++ rest)

theorem EndsTiling.gap {u : Token} {before s rest : List Char}
    (h : EndsTiling u before (s ++ rest)) (hs : IsGap s) : EndsTiling u (before ++ s) rest := by
  obtain ⟨start, gap, rfl, hpos, hgap, hstands⟩ := h
  refine ⟨start, gap ++ s, ?_, hpos, hgap.append hs, ?_⟩
  · rw [List.append_assoc, List.append_assoc]
  · rwa [List.append_assoc]

/-- A line comment is alone on its line if only white space is in front of it. -/
theorem endsBlank_of_standsAlone {t : Token} {before rest : List Char}
    (hstands : Stands (some t.kind) t.text.toList rest) (hpos : t.pos = .behind before)
    (h : t.StandsAlone (before ++ (t.text.toList ++ rest))) : EndsBlank before := by
  obtain ⟨hkind, hline⟩ := h
  rw [hkind] at hstands
  obtain ⟨body, htext, hbody, hrest⟩ := hstands.comment
  have hend : rest.takeWhile (· != '\n') = [] := by
    rcases hrest with rfl | ⟨more, rfl⟩ <;> rfl
  have hmem : '\n' ∉ t.text.toList := by
    rw [htext]
    simpa using hbody
  rw [hpos, lineOf_append, takeWhile_line hmem, hend, List.append_nil] at hline
  intro c hc
  by_contra hwhite
  have hdrop : (lastLine before).dropWhile isWhite ≠ [] := fun hnil =>
    hwhite (List.dropWhile_eq_nil_iff.mp hnil c hc)
  rw [List.dropWhile_append, if_neg (by simpa using hdrop)] at hline
  exact hdrop (List.append_left_eq_self.mp hline)

/-- The token stands in front of a text, or it is the end of an empty one. -/
def Heads (t : Token) (rest : List Char) : Prop :=
  (∃ more, rest = t.text.toList ++ more ∧ Stands (some t.kind) t.text.toList more) ∨
    rest = [] ∧ t.kind = .finish

/-- Directly behind a comment the line ends. -/
theorem Heads.of_comment {t : Token} {s gap rest : List Char} (ht : Heads t rest) (hgap : IsGap gap)
    (hstands : Stands (some .comment) s (gap ++ rest)) :
    (t.kind = .newline ∨ t.kind = .finish) ∧ gap = [] := by
  obtain ⟨body, -, -, hnil | ⟨more, hmore⟩⟩ := hstands.comment
  · obtain ⟨rfl, rfl⟩ := List.append_eq_nil_iff.mp hnil
    refine ⟨?_, rfl⟩
    rcases ht with ⟨more, hnil, ht⟩ | ⟨-, ht⟩
    · exact absurd (List.append_eq_nil_iff.mp hnil.symm).1 ht.ne_nil
    · exact .inr ht
  · obtain rfl := hgap.eq_nil_of_lineEnd hmore
    refine ⟨?_, rfl⟩
    rcases ht with ⟨more', rfl, ht⟩ | ⟨rfl, ht⟩
    · exact .inl (ht.lineEnd hmore)
    · exact .inr ht

/-- The token that ends a tiling and the one that begins behind it, or the end of the text. -/
theorem EndsTiling.follows {u t : Token} {before rest : List Char} (h : EndsTiling u before rest)
    (hpos : t.pos = .behind before) (ht : Heads t rest) : Follows (before ++ rest) u t := by
  obtain ⟨start, gap, rfl, hu, hgap, hstands⟩ := h
  have hnext : t.pos = u.pos.after (u.text.toList ++ gap) := by
    rw [hpos, hu, Position.after_behind]
  have hcomment (hkind : u.kind = .comment) :
      (t.kind = .newline ∨ t.kind = .finish) ∧ gap = [] :=
    ht.of_comment hgap (hkind ▸ hstands)
  refine ⟨kind_ne_finish_of_form hstands.form, ?_, fun hkind => ?_, fun hkind => ?_,
    fun halone => ?_⟩
  · rw [hnext]
    exact Position.before_after _ (List.append_ne_nil_of_left_ne_nil hstands.ne_nil _)
  · rw [hkind] at hstands
    rw [hpos, hu, line_behind_append, List.count_append, hstands.form.eq_of_newline,
      List.count_singleton_self]
    omega
  · obtain ⟨hkind', rfl⟩ := hcomment hkind
    refine ⟨hkind', ?_⟩
    rw [hkind] at hstands
    obtain ⟨body, htext, hbody, -⟩ := hstands.comment
    have hmem : '\n' ∉ u.text.toList := by
      rw [htext]
      simpa using hbody
    rw [hpos, hu, line_behind_append, List.append_nil, List.count_eq_zero_of_not_mem hmem,
      Nat.add_zero]
  · -- in front of a comment that stands alone there is white space, which is no token
    rcases ht with ⟨more, rfl, ht⟩ | ⟨-, ht⟩
    · have hblank := endsBlank_of_standsAlone ht hpos halone
      rw [← List.append_assoc] at hblank
      by_contra hnewline
      have hblank := hblank.of_append_gap hgap
      by_cases hkind : u.kind = .comment
      · obtain ⟨ht | ht, -⟩ := hcomment hkind <;>
        · rw [halone.1] at ht
          cases ht
      · obtain ⟨init, c, hinit, hc⟩ := exists_concat_of_form hstands.form hkind hnewline
        rw [hinit, ← List.append_assoc] at hblank
        exact not_endsBlank_concat hc _ hblank
    · rw [halone.1] at ht
      cases ht

theorem Tiles.isChain {text before rest : List Char} {tokens : List Token}
    (h : Tiles text tokens before rest) :
    tokens.IsChain (Follows text) ∧ ∀ u ∈ tokens.getLast?, EndsTiling u before rest := by
  induction h with
  | start => exact ⟨.nil, nofun⟩
  | gap _ hgap _ ih => exact ⟨ih.1, fun u hu => (ih.2 u hu).gap hgap⟩
  | @token tokens before rest t h hstands hpos ih =>
      refine ⟨List.isChain_append.mpr ⟨ih.1, .singleton _, fun u hu v hv => ?_⟩, fun u hu => ?_⟩
      · cases hv
        have hfollows := (ih.2 u hu).follows hpos (.inl ⟨rest, rfl, hstands⟩)
        rwa [← h.text_eq] at hfollows
      · rw [List.getLast?_concat] at hu
        cases hu
        exact ⟨before, [], by rw [List.append_nil], hpos, .nil, hstands⟩

theorem Tiles.text_of_newline {text before rest : List Char} {tokens : List Token}
    (h : Tiles text tokens before rest) : ∀ t ∈ tokens, t.kind = .newline → t.text = "\n" := by
  induction h with
  | start => exact List.forall_mem_nil _
  | gap _ _ _ ih => exact ih
  | @token tokens before rest t _ hstands _ ih =>
      refine List.forall_mem_append.mpr ⟨ih, List.forall_mem_singleton.mpr fun hkind => ?_⟩
      rw [hkind] at hstands
      rw [← String.ofList_toList (s := t.text), hstands.form.eq_of_newline]

/-- The tokens of a text stand on its lines: any two in a row are related as said.  What kind a
token is of shows in its text. -/
structure LaidOut (text : List Char) (tokens : List Token) : Prop where
  follows : tokens.IsChain (Follows text)
  text_of_newline : ∀ t ∈ tokens, t.kind = .newline → t.text = "\n"
  text_of_finish : ∀ t ∈ tokens, t.kind = .finish → t.text = ""
  isIdentifier : ∀ t ∈ tokens, t.kind = .ident → Go.isIdentifier t.text

theorem laidOut_of_scan {text : String} {tokens : List Token} (h : Token.scan text = .ok tokens) :
    LaidOut text.toList tokens := by
  have hident := isIdentifier_of_scanFrom h
  have hfinish := text_of_finish_of_scan h
  rcases scan_tiles text with ⟨tokens', hscan, -, htiles⟩ | ⟨fault, _, _, _, hscan, -⟩
  · cases h.symm.trans hscan
    refine ⟨List.isChain_append.mpr ⟨htiles.isChain.1, .singleton _, fun u hu v hv => ?_⟩,
      List.forall_mem_append.mpr ⟨htiles.text_of_newline, List.forall_mem_singleton.mpr nofun⟩,
      hfinish, fun t ht hkind => hident _ (mem_identifiers_iff.mpr ⟨t, ht, hkind, rfl⟩)⟩
    cases hv
    have hfollows := (htiles.isChain.2 u hu).follows (t := .atEnd _) rfl (.inr ⟨rfl, rfl⟩)
    rwa [List.append_nil] at hfollows
  · cases h.symm.trans hscan

end GoSchema.Go
