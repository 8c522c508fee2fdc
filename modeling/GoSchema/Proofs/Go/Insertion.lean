import GoSchema.Proofs.Go.DocText
import GoSchema.Proofs.Go.Items

/-!
# Lines put into a file

Lines that are put in between two items of a file are read in between, and the items around them are
read as before: those above because reading does not look beyond the line end in front of the new
lines, those below because they are the same tokens some lines further down.

A place for new lines is a `Seam`: a line end between two items.  What the file comes to then
depends only on how the tokens of the new lines are read (`Seam.value_ofText_insert`).
-/

namespace GoSchema.Go

open Lexeme

/-! ## Scanning further down -/

theorem Position.next_down (lines : Nat) (p : Position) (c : Char) :
    (p.down lines).next c = (p.next c).down lines := by
  by_cases hc : c = '\n'
  · simp only [next, down, if_pos hc]
    exact congrArg (Position.mk · 1) (Nat.add_right_comm ..)
  · simp only [next, down, if_neg hc]

theorem Position.after_down (lines : Nat) (p : Position) (s : List Char) :
    (p.down lines).after s = (p.after s).down lines := by
  induction s generalizing p with
  | nil => rfl
  | cons c s ih =>
      rw [after, List.foldl_cons, next_down]
      exact ih _

/-- The same text further down has the same tokens further down. -/
theorem Token.scanFrom_down (lines : Nat) (pos : Position) (s : List Char) {tokens : List Token}
    (h : scanFrom pos s = .ok tokens) :
    scanFrom (pos.down lines) s = .ok (tokens.map (Token.down lines)) := by
  induction hlength : s.length using Nat.strong_induction_on generalizing s pos tokens with
  | _ n ih =>
      subst hlength
      cases hfound : atStart? s with
      | none =>
          have hstuck := atStart?_eq_none_iff.mp hfound
          cases s with
          | nil =>
              rw [scanFrom_nil] at h ⊢
              cases h
              rfl
          | cons c rest =>
              rw [scanFrom_of_stuck _ (List.cons_ne_nil c rest) hstuck] at h
              cases h
      | some l =>
          obtain ⟨taken, rest, rfl, hshorter, hstands⟩ := exists_stands_of_atStart? hfound
          cases hkind : l.kind? with
          | none =>
              rw [hkind] at hstands
              rw [scanFrom_of_gap _ hstands] at h ⊢
              rw [Position.after_down]
              exact ih _ hshorter _ _ h rfl
          | some kind =>
              rw [hkind] at hstands
              rw [scanFrom_of_token _ hstands] at h ⊢
              obtain ⟨more, hmore, rfl⟩ := ok_of_map_iff.mp h
              rw [Position.after_down, ih _ hshorter _ _ hmore rfl]
              rfl

/-- Scanning comes to a place that a tiling comes to. -/
theorem Tiles.scanFrom_start {text before rest : List Char} {tokens : List Token}
    (h : Tiles text tokens before rest) :
    Token.scanFrom .start text = (Token.scanFrom (.behind before) rest).map (tokens ++ ·) := by
  induction h with
  | start =>
      have hstart : Position.behind [] = .start := rfl
      rw [hstart]
      cases Token.scanFrom .start text <;> rfl
  | @gap tokens before s rest _ _ hfound ih =>
      rw [ih, Token.scanFrom_of_gap _ hfound, Position.after_behind]
  | @token tokens before rest t _ hfound hpos ih =>
      rw [ih, Token.scanFrom_of_token _ hfound, Position.after_behind, String.ofList_toList, ← hpos]
      cases Token.scanFrom (.behind (before ++ t.text.toList)) rest with
      | error fault => rfl
      | ok more => exact congrArg Except.ok (List.append_assoc tokens [t] more).symm

/-- A tiling goes on over the pieces of a text. -/
theorem Tiles.spell {text before rest : List Char} {earlier : List Token} {pieces : List Piece}
    (h : Tiles text earlier before (Go.spell pieces ++ rest)) (hfits : Fits pieces rest) :
    Tiles text (earlier ++ tokensOf (.behind before) pieces) (before ++ Go.spell pieces) rest := by
  induction pieces generalizing earlier before with
  | nil =>
      rw [spell_nil, tokensOf_nil, List.append_nil, List.append_nil]
      exact h
  | cons p pieces ih =>
      obtain ⟨hp, hpieces⟩ := hfits
      rw [spell_cons, List.append_assoc] at h
      rw [spell_cons, tokensOf, Position.after_behind, ← List.append_assoc, ← List.append_assoc]
      apply ih _ hpieces
      obtain ⟨kind?, text⟩ := p
      cases kind? with
      | none =>
          rw [Option.map_none, Option.toList_none, List.append_nil]
          exact .gap h (isGap_of_form hp.form) hp
      | some kind => exact .token h hp rfl

/-! ## The place -/

/-- The line end behind a beginning of a text. -/
def lineEndBehind (above : List Char) : Token := ⟨.newline, "\n", .behind above⟩

/-- The line end behind a beginning of a file stands between two items.  Before it there are tokens
and gaps, and there is a cursor that reading comes by from which only line ends and comments lead up
to it. -/
structure Seam (file : String) (above below : List Char) (earlier : List Token) : Prop where
  tiles : Tiles (above ++ '\n' :: below) earlier above ('\n' :: below)
  between : ∃ later c name? declarations trivia,
    Token.scan (String.ofList (above ++ '\n' :: below)) =
      .ok (earlier ++ lineEndBehind above :: later) ∧
    Cursor.Visits file (.ofTokens (earlier ++ lineEndBehind above :: later)) name? declarations c ∧
    c.rest = trivia ++ lineEndBehind above :: later ∧ ∀ t ∈ trivia, Cursor.isTrivia t

/-- The tokens of the lines that are put in at a place of a text, and the text after this. -/
structure Inserted (above lines below : List Char) (earlier inserted : List Token) : Prop where
  tiles : Tiles (above ++ '\n' :: (lines ++ '\n' :: below))
    (earlier ++ lineEndBehind above :: inserted) (above ++ '\n' :: lines) ('\n' :: below)

/-- Pieces that are put in. -/
theorem inserted_spell {above lines : List Piece} {below : List Char}
    (h : Fits (above ++ .lineEnd :: lines) ('\n' :: below)) :
    Inserted (spell above) (spell lines) below (tokensOf .start above)
      (tokensOf ((Position.behind (spell above)).next '\n') lines) := by
  have hstart : Position.behind [] = .start := rfl
  have hlineEnd : spell (.lineEnd :: lines) = '\n' :: spell lines := rfl
  have htiles := Tiles.start.spell h
  rw [hstart, tokensOf_append, spell_append, hlineEnd, List.nil_append, List.nil_append,
    List.append_assoc, List.cons_append, ← hstart, Position.after_behind, List.nil_append, hstart]
    at htiles
  exact ⟨htiles⟩

/-- The text with the new lines. -/
def withLines (above lines below : List Char) : String :=
  String.ofList (above ++ '\n' :: (lines ++ '\n' :: below))

theorem withLines_eq_append {above lines below first second third : List Char}
    (h : above ++ '\n' :: (lines ++ '\n' :: below) = first ++ second ++ third) :
    withLines above lines below =
      String.ofList first ++ String.ofList second ++ String.ofList third := by
  rw [withLines, h, String.ofList_append, String.ofList_append]

theorem Tiles.scan_lineEnd {text above below : List Char} {tokens : List Token}
    (h : Tiles text tokens above ('\n' :: below)) :
    Token.scan (String.ofList text) =
      (Token.scanFrom ((Position.behind above).next '\n') below).map
        fun later => tokens ++ lineEndBehind above :: later := by
  have hlineEnd : Token.scanFrom (.behind above) ('\n' :: below) =
      (Token.scanFrom ((Position.behind above).next '\n') below).map (lineEndBehind above :: ·) :=
    Token.scanFrom_of_token _ (stands_lineEnd below)
  rw [Token.scan, String.toList_ofList, h.scanFrom_start, hlineEnd]
  cases Token.scanFrom ((Position.behind above).next '\n') below <;> rfl

/-- The new lines move what is below them down. -/
theorem next_behind_lines (above lines : List Char) :
    (Position.behind (above ++ '\n' :: lines)).next '\n' =
      ((Position.behind above).next '\n').down (lines.count '\n' + 1) := by
  simp only [Position.next, if_pos, Position.down, Position.behind, List.count_append,
    List.count_cons_self]
  congr 1
  omega

theorem line_lineEndBehind (above lines : List Char) :
    (lineEndBehind (above ++ '\n' :: lines)).pos.line =
      (lineEndBehind above).pos.line + (lines.count '\n' + 1) := by
  simp only [lineEndBehind, Position.behind, List.count_append, List.count_cons_self]
  omega

namespace Cursor

variable {file : String} {c d e : Cursor} {t : Token} {trivia rest : List Token}

/-- What stands between two items is passed with them. -/
theorem exists_past_trivia (h : c.rest = trivia ++ t :: rest) (htrivia : ∀ u ∈ trivia, isTrivia u)
    (ht : isTrivia t) :
    ∃ d : Cursor, d.rest = rest ∧ d.lastLine = t.pos.line ∧
      d.passed = (commentsOf (trivia ++ [t])).reverse ++ c.passed ∧
      c.skipTrivia = d.skipTrivia := by
  have hstep {c : Cursor} {u : Token} {rest : List Token} (h : c.rest = u :: rest)
      (hu : isTrivia u) :
      ∃ d : Cursor, d.rest = rest ∧ d.lastLine = u.pos.line ∧
        d.passed = (commentsOf [u]).reverse ++ c.passed ∧ c.skipTrivia = d.skipTrivia := by
    rw [skipTrivia_of_rest h]
    by_cases hcomment : u.kind = .comment
    · rw [if_pos hcomment]
      refine ⟨_, rfl, rfl, ?_, rfl⟩
      rw [commentsOf, List.filterMap_cons, if_pos hcomment]
      rfl
    · simp only [isTrivia, Bool.or_eq_true, Bool.and_eq_true, beq_iff_eq, hcomment, false_or] at hu
      rw [if_neg hcomment, if_pos hu]
      refine ⟨_, rfl, rfl, ?_, rfl⟩
      rw [commentsOf, List.filterMap_cons, if_neg hcomment]
      rfl
  induction trivia generalizing c with
  | nil => exact hstep h ht
  | cons u trivia ih =>
      obtain ⟨hu, htrivia⟩ := List.forall_mem_cons.mp htrivia
      obtain ⟨d, hd, -, hpassed, hskip⟩ := hstep h hu
      obtain ⟨e, he, hline, hpassed', hskip'⟩ := ih hd htrivia
      refine ⟨e, he, hline, ?_, hskip.trans hskip'⟩
      have hcomments := commentsOf_append [u] (trivia ++ [t])
      rw [hpassed', hpassed, ← List.append_assoc, ← List.reverse_append, ← hcomments]
      rfl

theorem parseRest_congr (h : c.skipTrivia = d.skipTrivia) (package? : Option String) :
    c.parseRest file package? = d.parseRest file package? := by
  have hsame {a b : Cursor} (hab : a = b) {t : Token} {e : Cursor} {he : e.left < a.left}
      (hnext : a.next? = some (t, ⟨e, he⟩)) : ∃ he, b.next? = some (t, ⟨e, he⟩) := by
    subst hab
    exact ⟨he, hnext⟩
  rw [parseRest, parseRest]
  dsimp only
  cases hnext : c.skipTrivia.next? with
  | none =>
      have hnext' : d.skipTrivia.next? = none := by
        rw [← h]
        exact hnext
      rw [hnext']
  | some first =>
      obtain ⟨t, e, he⟩ := first
      obtain ⟨he', hnext'⟩ := hsame h hnext
      rw [hnext']
      dsimp only
      rw [h]

end Cursor

/-- The file of some declarations, if a package was named. -/
def File.ofParts : Option String × List Declaration → Except Fault File
  | (some package, declarations) => .ok ⟨package, declarations⟩
  | (none, _) => .error ⟨.missingPackage, .start⟩

theorem File.value_ofText_of_scan {file text : String} {tokens : List Token}
    (h : Token.scan text = .ok tokens) :
    (File.ofText file text).value =
      ((Cursor.ofTokens tokens).parseRest file none).value >>= File.ofParts := by
  rw [ofText, Reading.value_bind, Reading.value_liftM, h, Cursor.ok_bind, ofTokens,
    Reading.value_bind]
  refine congrArg _ (funext fun r => ?_)
  obtain ⟨package?, declarations⟩ := r
  cases package? <;> rfl

/-- With lines put in behind a line end, their tokens are put in behind its token. -/
theorem Inserted.scan_withLines {above lines below : List Char} {earlier inserted later : List Token}
    (h : Inserted above lines below earlier inserted)
    (htiles : Tiles (above ++ '\n' :: below) earlier above ('\n' :: below))
    (hscan : Token.scan (String.ofList (above ++ '\n' :: below)) =
      .ok (earlier ++ lineEndBehind above :: later)) :
    Token.scan (withLines above lines below) =
      .ok (earlier ++ lineEndBehind above :: (inserted ++ lineEndBehind (above ++ '\n' :: lines) ::
        later.map (Token.down (lines.count '\n' + 1)))) := by
  rw [htiles.scan_lineEnd] at hscan
  obtain ⟨later', hlater, heq⟩ := ok_of_map_iff.mp hscan
  have heq : later' = later := (List.cons_eq_cons.mp (List.append_cancel_left heq)).2
  subst heq
  have hlines := Token.scanFrom_down (lines.count '\n' + 1) _ _ hlater
  rw [withLines, h.tiles.scan_lineEnd, next_behind_lines, hlines]
  refine congrArg Except.ok ?_
  dsimp only
  rw [List.append_assoc, List.cons_append]

/-- The last token of a file is its end. -/
theorem exists_end_of_scan {text : String} {earlier later : List Token} {t : Token}
    (h : Token.scan text = .ok (earlier ++ t :: later)) (ht : t.kind ≠ .finish) :
    ∃ before finish, later = before ++ [finish] ∧ finish.IsEnd := by
  rcases scan_tiles text with ⟨tokens, hscan, -⟩ | ⟨fault, tokens, before, rest, hscan, -⟩
  · rw [h] at hscan
    have heq := Except.ok.inj hscan
    rcases List.eq_nil_or_concat later with rfl | ⟨before, finish, rfl⟩
    · have hlast := (List.append_inj' heq rfl).2
      cases hlast
      exact absurd rfl ht
    · refine ⟨before, finish, by rw [List.concat_eq_append], ?_⟩
      rw [List.concat_eq_append, ← List.cons_append, ← List.append_assoc] at heq
      have hlast := (List.append_inj' heq rfl).2
      cases hlast
      exact ⟨rfl, rfl⟩
  · rw [h] at hscan
    cases hscan

/-- Up to the new lines the file is read as before.  What is left is then to be read from the new
lines on, instead of the line below the place. -/
theorem Seam.value_ofText {file : String} {above lines below : List Char}
    {earlier inserted : List Token} (h : Seam file above below earlier)
    (hinserted : Inserted above lines below earlier inserted) :
    ∃ (c d : Cursor) (later : List Token) (finish : Token) (name? : Option String)
      (declarations declarations' : List Declaration),
      finish.IsEnd ∧
      c.rest = later ++ [finish] ∧ c.lastLine = (lineEndBehind above).pos.line ∧
      d.rest = inserted ++ lineEndBehind (above ++ '\n' :: lines) ::
        (later ++ [finish]).map (Token.down (lines.count '\n' + 1)) ∧
      (File.ofText file (String.ofList (above ++ '\n' :: below))).value = (do
        let (package?, more) ← (c.parseRest file name?).value
        File.ofParts (package?, declarations ++ more)) ∧
      (File.ofText file (withLines above lines below)).value = (do
        let (package?, more) ← (d.parseRest file name?).value
        File.ofParts (package?, declarations' ++ more)) ∧
      declarations'.map Declaration.eraseLayout = declarations.map Declaration.eraseLayout := by
  obtain ⟨later, c, name?, declarations, trivia, hscan, hvisits, hrest, htrivia⟩ := h.between
  have hscan' := hinserted.scan_withLines h.tiles hscan
  obtain ⟨before, finish, rfl, hfinish⟩ := exists_end_of_scan hscan (by nofun)
  -- above the place the two texts mirror each other
  let s : Cursor.Cut := .below 0 (lineEndBehind above) (before ++ [finish])
    (inserted ++ lineEndBehind (above ++ '\n' :: lines) ::
      (before ++ [finish]).map (Token.down (lines.count '\n' + 1))) False (.inl ⟨rfl, rfl⟩)
  have hmirrors : s.Mirrors (.ofTokens (earlier ++ lineEndBehind above :: (before ++ [finish])))
      (.ofTokens (earlier ++ lineEndBehind above :: s.second)) := by
    refine .of_map_down rfl ?_ rfl False.elim
    have hdown : Token.down 0 = id := rfl
    rw [hdown, List.map_id, List.append_assoc]
    rfl
  have hlt : s.first.length < c.left := by
    simp only [s, Cursor.left, hrest, List.length_append, List.length_cons]
    omega
  obtain ⟨declarations', d, hvisits', hsame, hcd⟩ := hmirrors.visits hvisits hlt
  have hrest' : d.rest = trivia ++ lineEndBehind above :: s.second := by
    obtain ⟨trivia', mirrored, hc, hd, halike, -⟩ := hcd
    rw [hrest] at hc
    rw [hd, halike.eq_map_down, ← List.append_cancel_right hc]
    have hdown : Token.down 0 = id := rfl
    rw [hdown, List.map_id, List.append_assoc]
    rfl
  obtain ⟨c', hc', hline, -, hskip⟩ := Cursor.exists_past_trivia hrest htrivia rfl
  obtain ⟨d', hd', -, -, hskip'⟩ := Cursor.exists_past_trivia hrest' htrivia rfl
  refine ⟨c', d', before, finish, name?, declarations, declarations', hfinish, hc', hline, hd', ?_,
    ?_, hsame.eraseLayout_eq⟩
  · rw [File.value_ofText_of_scan hscan, hvisits.value_parseRest, Option.or_none,
      Cursor.parseRest_congr hskip, bind_assoc]
    rfl
  · rw [File.value_ofText_of_scan hscan', hvisits'.value_parseRest, Option.or_none,
      Cursor.parseRest_congr hskip', bind_assoc]
    rfl

/-- In front of a line end some tokens are read as an item with the given declarations, up to
layout. -/
def ReadsAs (file : String) (tokens : List Token) (declarations : List Declaration) : Prop :=
  ∀ (c : Cursor) (lineEnd : Token) (rest : List Token), lineEnd.kind = .newline →
    lineEnd.text = "\n" → c.rest = tokens ++ lineEnd :: rest →
    ∃ declarations' d, c.parseItem file = .ok (some ((none, declarations'), d)) ∧
      declarations'.map Declaration.eraseLayout = declarations.map Declaration.eraseLayout ∧
      d.1.rest = lineEnd :: rest

/-- **New lines between two items leave the others as they are.**  If a file is read, it is read as
well with an item put in: its package is the same, and its declarations are those from before, with
those of the new item in between. -/
theorem Seam.value_ofText_insert {file : String} {above lines below : List Char}
    {earlier inserted : List Token} (h : Seam file above below earlier)
    (hinserted : Inserted above lines below earlier inserted) {f : File}
    (hfile : (File.ofText file (String.ofList (above ++ '\n' :: below))).value = .ok f)
    {declarations : List Declaration} (hitem : ReadsAs file inserted declarations) :
    ∃ f' first last, (File.ofText file (withLines above lines below)).value = .ok f' ∧
      f'.package = f.package ∧ f.declarations = first ++ last ∧
      f'.declarations.map Declaration.eraseLayout =
        (first ++ declarations ++ last).map Declaration.eraseLayout := by
  obtain ⟨c, d, later, finish, name?, first, first', hfinish, hc, hline, hd, hold, hnew, hfirst⟩ :=
    h.value_ofText hinserted
  rw [hold] at hfile
  obtain ⟨⟨package?, last⟩, hlast, hparts⟩ := ok_of_bind_iff.mp hfile
  obtain ⟨middle, ⟨e, he⟩, hread, hmiddle, hrest⟩ := hitem d _ _ rfl rfl hd
  obtain ⟨e', he', hline', -, hskip⟩ :=
    Cursor.exists_past_trivia (hrest.trans (List.nil_append _).symm) (List.forall_mem_nil _) rfl
  -- below the new lines the two texts mirror each other up to their end
  let s : Cursor.Cut := .below (lines.count '\n' + 1) finish [] [] False (.inr hfinish)
  have hmirrors : s.Mirrors c e' := by
    refine .of_map_down hc ?_ ?_ False.elim
    · rw [he', List.append_nil]
    · rw [hline', hline, line_lineEndBehind]
  obtain ⟨last', hlast', hsame⟩ := hmirrors.value_parseRest hfinish rfl hlast
  cases package? with
  | none => cases hparts
  | some package =>
      cases hparts
      refine ⟨⟨package, first' ++ (middle ++ last')⟩, first, last, ?_, rfl, rfl, ?_⟩
      · rw [hnew, Cursor.value_parseRest, hread, Cursor.ok_bind]
        dsimp only
        rw [Cursor.parseRest_congr hskip, Option.none_or, hlast']
        rfl
      · rw [List.map_append, List.map_append, hfirst, hmiddle, hsame.eraseLayout_eq, List.append_assoc,
          List.map_append, List.map_append]

end GoSchema.Go
