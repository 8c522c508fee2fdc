import GoSchema.Proofs.Go.Brackets
import GoSchema.Proofs.Go.DocumentedItems
import GoSchema.Proofs.Go.Insertion

/-!
# Lines put into a struct

A line that is put in between two lines of a struct is read in between, and the fields around it are
read as before: those above because reading does not look beyond the line end in front of the new
line, those below because they are the same tokens further down.  The documentation of a field is
what stands above it, so that of the next field stays the same unless it has a part above the new
line.

The place for a new line is a line end in the body of a struct (`FieldSeam`).  What the struct comes
to then is how the new line is read, with the fields above in front of it and the fields below behind
it (`FieldSeam.exists_ends`, `FieldSeam.readsWithField`).
-/

namespace GoSchema.Go

/-! ## Documentation from two places -/

/-- Comments above a line are no documentation of what is below it, if that line is not one of
them. -/
theorem Comment.blockAbove_append {seam line : Nat} {passed old : List Comment}
    (hline : seam < line) (hpassed : ∀ x ∈ passed, seam < x.line) (hold : ∀ x ∈ old, x.line < seam) :
    blockAbove line (passed ++ old) = blockAbove line passed := by
  induction passed generalizing line with
  | nil =>
      cases old with
      | nil => rfl
      | cons x old =>
          have hx := hold x List.mem_cons_self
          have hne : x.line + 1 ≠ line := by omega
          exact if_neg hne
  | cons y passed ih =>
      obtain ⟨hy, hpassed⟩ := List.forall_mem_cons.mp hpassed
      rw [List.cons_append, blockAbove, blockAbove, ih hy hpassed]

namespace Cursor

variable {text : List Char} {tokens : List Token} {c d e : Cursor} {fields first : List Field}

/-- What is passed does not depend on what was passed before. -/
theorem skipTrivia_congr (h : c.forget = d.forget) : c.skipTrivia.forget = d.skipTrivia.forget := by
  have hsame {a b : Cursor} (hab : a.forget = b.forget) (t : Token) (rest : List Token)
      (passed passed' : List Comment) : forget { a.past t rest with passed := passed } =
        forget { b.past t rest with passed := passed' } := by
    cases a
    cases b
    cases hab
    rfl
  fun_induction Cursor.skipTrivia c generalizing d with
  | case1 c hrest =>
      have hd : d.rest = [] := (congrArg Cursor.rest h).symm.trans hrest
      rw [Cursor.skipTrivia]
      split
      · exact h
      · next t rest heq =>
        rw [hd] at heq
        cases heq
  | case2 c t rest hrest _ hkind ih =>
      have hd : d.rest = t :: rest := (congrArg Cursor.rest h).symm.trans hrest
      rw [skipTrivia_of_rest hd, if_pos hkind]
      exact ih (hsame h t rest _ _)
  | case3 c t rest hrest _ hkind hskipped ih =>
      have hd : d.rest = t :: rest := (congrArg Cursor.rest h).symm.trans hrest
      rw [skipTrivia_of_rest hd, if_neg hkind, if_pos hskipped]
      exact ih (hsame h t rest _ _)
  | case4 c t rest hrest _ hkind hskipped =>
      have hd : d.rest = t :: rest := (congrArg Cursor.rest h).symm.trans hrest
      rw [skipTrivia_of_rest hd, if_neg hkind, if_neg hskipped]
      exact h

/-- What was passed above a line is no documentation below it. -/
theorem docs_skipTrivia_forget {seam line : Nat} (hline : seam < line)
    (hrest : ∀ t ∈ c.rest, seam < t.pos.line) (hold : ∀ x ∈ c.passed, x.line < seam) :
    c.skipTrivia.docs line = c.forget.skipTrivia.docs line := by
  obtain ⟨trivia, hc, -, hpassed⟩ := c.exists_trivia
  obtain ⟨trivia', hc', -, hpassed'⟩ := c.forget.exists_trivia
  have hforget := congrArg rest (skipTrivia_congr (c := c) (d := c.forget) rfl)
  have hskip : c.skipTrivia.rest = c.forget.skipTrivia.rest := hforget
  have htrivia : trivia' = trivia := by
    rw [← hskip] at hc'
    exact List.append_cancel_right (hc'.symm.trans hc)
  subst htrivia
  have hnew : ∀ x ∈ (commentsOf trivia').reverse, seam < x.line := by
    intro x hx
    obtain ⟨t, ht, -, rfl⟩ := mem_commentsOf_iff.mp (List.mem_reverse.mp hx)
    exact hrest t (hc ▸ List.mem_append_left _ ht)
  have hnil : (commentsOf trivia').reverse ++ c.forget.passed = (commentsOf trivia').reverse :=
    List.append_nil _
  rw [docs, docs, Comment.docs, Comment.docs, hpassed, hpassed', hnil,
    Comment.blockAbove_append hline hnew hold]

/-- Comments further above are no documentation. -/
theorem docs_eq_empty {seam line : Nat} (hline : seam < line)
    (hold : ∀ x ∈ c.passed, x.line < seam) : c.docs line = "" := by
  have hnone := Comment.blockAbove_append hline (List.forall_mem_nil _) hold
  rw [List.nil_append] at hnone
  rw [docs, Comment.docs, hnone]
  rfl

/-! ## Reading up to a line of a struct -/

/-- Reading comes from one cursor to another one between two lines of a struct.  On the way there are
the given fields. -/
inductive FieldVisits : Cursor → List Field → Cursor → Prop
  | here (c : Cursor) : FieldVisits c [] c
  | line {c d e : Cursor} {fields more : List Field} (h : c.DeclaresFields fields d)
      (rest : FieldVisits d more e) : FieldVisits c (fields ++ more) e

theorem FieldVisits.left_le (h : c.FieldVisits fields e) : e.left ≤ c.left := by
  induction h with
  | here c => exact Cursor.left_le c
  | line h _ ih => exact Nat.le_of_lt (Nat.lt_of_le_of_lt ih h.left_lt)

/-- From a line that reading comes by the rest of the struct is read. -/
theorem FieldVisits.readsFields_iff (h : c.FieldVisits first d) {all : List Field} :
    c.ReadsFields all e ↔ ∃ last, d.ReadsFields last e ∧ all = first ++ last := by
  induction h generalizing all with
  | here c => exact ⟨fun hread => ⟨all, hread, rfl⟩, fun ⟨_, hread, heq⟩ => heq ▸ hread⟩
  | @line c d r fields more hline hrest ih =>
      rw [hline.readsFields_iff]
      constructor
      · rintro ⟨_, hread, rfl⟩
        obtain ⟨last, hlast, rfl⟩ := ih.mp hread
        exact ⟨last, hlast, (List.append_assoc ..).symm⟩
      · rintro ⟨last, hlast, rfl⟩
        exact ⟨more ++ last, ih.mpr ⟨last, hlast, rfl⟩, List.append_assoc ..⟩

theorem Cut.Mirrors.fieldVisits {s : Cut} (h : s.Mirrors c d) (hvisits : c.FieldVisits fields e)
    (he : s.first.length < e.left) :
    ∃ fields' f, d.FieldVisits fields' f ∧ s.SameFields fields fields' ∧ s.Mirrors e f := by
  induction hvisits generalizing d with
  | here c => exact ⟨[], d, .here d, ⟨rfl, fun _ => rfl⟩, h⟩
  | @line c r e line more hline hrest ih =>
      obtain ⟨line', r', hline', hsame, hrr'⟩ :=
        h.declaresFields hline (Nat.lt_of_lt_of_le he hrest.left_le)
      obtain ⟨more', f, hvisits, hsame', hef⟩ := ih hrr' he
      exact ⟨_, f, .line hline' hvisits, hsame.append hsame', hef⟩

theorem declaresFields_congr (h : c.skipTrivia = d.skipTrivia) :
    c.DeclaresFields fields e ↔ d.DeclaresFields fields e := by
  constructor
  · rintro ⟨hopened, hmore, hreads⟩
    rw [h] at hopened hmore hreads
    exact ⟨hopened, hmore, hreads⟩
  · rintro ⟨hopened, hmore, hreads⟩
    rw [← h] at hopened hmore hreads
    exact ⟨hopened, hmore, hreads⟩

theorem readsFields_congr (h : c.skipTrivia = d.skipTrivia) :
    c.ReadsFields fields e ↔ d.ReadsFields fields e := by
  rw [readsFields_iff, readsFields_iff, h]
  simp only [declaresFields_congr h]

/-- Over the lines of a struct the reader has only gone forward. -/
theorem DeclaresFields.passes {Passes Takes : Cursor → Cursor → Prop} (m : Motion Passes Takes)
    (h : c.DeclaresFields fields d) : Passes c d := by
  obtain ⟨-, -, e, he, hread, -, rfl⟩ := h
  have hline := m.passes_of_takes ((m.halts_parseFieldLine _ _).leads _ hread)
  exact m.trans (m.passes_item c) (m.trans hline (m.skipTrailingComment e))

theorem FieldVisits.passes {Passes Takes : Cursor → Cursor → Prop} (m : Motion Passes Takes)
    (h : c.FieldVisits fields d) : Passes c d := by
  induction h with
  | here c => exact m.refl c
  | line hline _ ih => exact m.trans (hline.passes m) ih

theorem DeclaresFields.atMember (h : LaidOut text tokens) (hc : c.AtMember text tokens)
    (hline : c.DeclaresFields fields d) : d.AtMember text tokens := by
  obtain ⟨-, -, e, he, hread, -, rfl⟩ := hline
  have hbehind : e.Behind tokens :=
    ((motion_noted tokens).halts_parseFieldLine _ _).leads _ hread
      ((motion_noted tokens).passes_item c hc.noted)
  exact hbehind.atMember h

theorem FieldVisits.atMember (h : LaidOut text tokens) (hc : c.AtMember text tokens)
    (hvisits : c.FieldVisits fields d) : d.AtMember text tokens := by
  induction hvisits with
  | here c => exact hc
  | line hline _ ih => exact ih (hline.atMember h hc)

/-- What is remembered between two members stands above a line end, unless a comment directly in
front of it does not belong to the member. -/
theorem AtMember.line_lt (h : LaidOut text tokens) (hc : c.AtMember text tokens)
    {gap later : List Token} {lineEnd : Token} (hrest : c.rest = gap ++ lineEnd :: later)
    (hnewline : lineEnd.kind = .newline) (hgap : ∀ t ∈ gap.getLast?, t.kind ≠ .comment) :
    ∀ x ∈ (commentsOf (gap ++ [lineEnd])).reverse ++ c.passed, x.line < lineEnd.pos.line := by
  obtain ⟨taken, w, htokens, hpassed, hw, -, -⟩ := hc.trimmed
  rw [hrest] at htokens
  intro x hx
  rcases List.mem_append.mp hx with hx | hx
  · -- behind a comment of the gap there is one more token of it, which ends its line
    obtain ⟨u, hu, hcomment, rfl⟩ := mem_commentsOf_iff.mp (List.mem_reverse.mp hx)
    have hu : u ∈ gap := by
      refine (List.mem_append.mp hu).resolve_right fun hu => ?_
      rw [List.mem_singleton.mp hu, hnewline] at hcomment
      cases hcomment
    obtain ⟨front, back, rfl⟩ := List.append_of_mem hu
    cases back with
    | nil => exact absurd hcomment (hgap u List.getLast?_concat)
    | cons v back =>
        have hsplit : tokens = (taken ++ w :: front) ++ u :: v :: (back ++ lineEnd :: later) := by
          rw [htokens]
          simp
        exact h.line_lt_of_comment_cons hsplit hcomment (by simp)
  · -- an earlier comment stands above the last token of the member
    obtain ⟨u, hu, hcomment, rfl⟩ := mem_commentsOf_iff.mp (hpassed.subset (List.mem_reverse.mpr hx))
    have hle : w.pos.line ≤ lineEnd.pos.line := (h.before_of_mem htokens (by simp)).line_le
    have hfinish := h.ne_finish htokens (by simp)
    obtain ⟨front, back, rfl⟩ := List.append_of_mem hu
    rw [List.append_assoc, List.cons_append] at htokens
    exact Nat.lt_of_lt_of_le (h.line_lt_of_comment htokens hcomment (by simp) hw hfinish) hle

/-- The rest of a struct is read as before some lines further down, with nothing remembered from
above, up to layout.  If what was remembered before stands further above, it is the same up to
lines. -/
theorem ReadsFields.down {later : List Token} {finish : Token} (hfinish : finish.IsEnd)
    (hc : c.rest = later ++ [finish]) {lines : Nat}
    (hd : d.rest = (later ++ [finish]).map (Token.down lines))
    (hline : d.lastLine = c.lastLine + lines) (hpassed : d.passed = []) {seam : Nat}
    (hbelow : ∀ t ∈ c.rest, seam < t.pos.line) {apart : Prop}
    (hold : apart → ∀ x ∈ c.passed, x.line < seam) (hread : c.ReadsFields fields e) :
    ∃ fields' f, d.ReadsFields fields' f ∧ f.rest = e.rest.map (Token.down lines) ∧
      fields'.map Field.eraseLayout = fields.map Field.eraseLayout ∧
      (apart → fields' = fields.map (Field.down lines)) := by
  -- the end of the file is never passed
  have m := motion_end hfinish
  have hend : [finish] <:+ c.rest := ⟨later, hc.symm⟩
  have hskip := m.skipTrivia c hend
  have hlast : [finish] <:+ e.rest := (m.halts_parseFields c).leads _ hread.2 hend
  let s : Cut := .below lines finish [] [] apart (.inr hfinish)
  have hmirrors : s.Mirrors c.forget d := by
    refine .of_map_down hc ?_ hline fun _ => ?_
    · rw [hd, List.append_nil]
    · rw [hpassed]
      exact .nil
  have hdocs (happart : apart) : d.skipTrivia.docs (c.skipTrivia.current.pos.line + lines) =
      c.skipTrivia.docs c.skipTrivia.current.pos.line := by
    obtain ⟨t, rest, ht⟩ := List.exists_cons_of_ne_nil (hskip.ne_nil (by simp))
    have hmem : t ∈ c.rest := by
      have hsuffix : c.skipTrivia.rest <:+ c.rest := motion_onward.skipTrivia c
      exact hsuffix.subset (ht ▸ List.mem_cons_self)
    rw [current_of_rest ht, docs_skipTrivia_forget (hbelow t hmem) hbelow (hold happart)]
    exact (hmirrors.skipTrivia (m.skipTrivia c.forget hend).length_le).docs happart _
  have hmirrors' : s.undocumented.Mirrors c d := by
    obtain ⟨before, mirrored, hc, hd, halike, hline, -⟩ := hmirrors.undocumented
    exact ⟨before, mirrored, hc, hd, halike, hline, False.elim⟩
  obtain ⟨fields', f, hread', hsame, before, mirrored, he, hf, halike, -⟩ :=
    hmirrors'.readsFields_of_docs hdocs hread hlast.length_le
  refine ⟨fields', f, hread', ?_, hsame.eraseLayout_eq, hsame.eq_down⟩
  rw [hf, he, (Cut.undocumented_alike_iff.mp halike).eq_map_down]
  exact List.append_nil _

/-! ## Reading a whole struct -/

/-- A struct is read: its fields, and what comes behind it. -/
def ReadsStruct (c : Cursor) (fields : List Field) (e : Cursor) : Prop :=
  ∃ h, c.parseStruct = .ok (fields, ⟨e, h⟩)

/-- Reading a struct comes by a cursor between two of its lines.  Above it there are the given
fields. -/
def StructVisits (c : Cursor) (fields : List Field) (d : Cursor) : Prop :=
  ∃ b h, c.expect Token.openBrace = .ok ⟨b, h⟩ ∧ b.forget.FieldVisits fields d

theorem StructVisits.readsStruct_iff (h : c.StructVisits first d) {all : List Field} :
    c.ReadsStruct all e ↔ ∃ last, d.ReadsFields last e ∧ all = first ++ last := by
  obtain ⟨b, hb, hopening, hvisits⟩ := h
  rw [← hvisits.readsFields_iff, ReadsStruct, ReadsFields, parseStruct, hopening, ok_bind]
  dsimp only
  constructor
  · rintro ⟨hleft, hread⟩
    obtain ⟨⟨fields, r, hr⟩, hfields, hread⟩ := ok_of_bind_iff.mp hread
    cases hread
    exact ⟨hr, hfields⟩
  · rintro ⟨hleft, hread⟩
    rw [hread]
    exact ⟨later_of_forget hleft hb, rfl⟩

theorem exists_rest_of_expect {word : String} {hleft : d.left < c.left}
    (h : c.expect word = .ok ⟨d, hleft⟩) :
    ∃ t, c.rest = t :: d.rest ∧ t.is word ∧ d.lastLine = t.pos.line := by
  unfold expect at h
  split at h
  · next heat =>
    cases h
    obtain ⟨t, hrest, his, hpast⟩ := exists_rest_of_eat? heat
    exact ⟨t, hrest, his, congrArg lastLine hpast⟩
  · cases h

theorem StructVisits.onward (h : c.StructVisits fields d) : c.Onward d := by
  obtain ⟨b, hb, hopening, hvisits⟩ := h
  obtain ⟨t, hrest, -, -⟩ := exists_rest_of_expect hopening
  have hbd : d.rest <:+ b.rest := hvisits.passes motion_onward
  exact hbd.trans ⟨[t], hrest.symm⟩

/-- A struct is read from its tokens alone: what was read in front of it does not matter. -/
theorem StructVisits.mirror {s : Cut} (h : c.StructVisits fields e) {before mirrored : List Token}
    (hc : c.rest = before ++ s.stop :: s.first) (hd : d.rest = mirrored ++ s.second)
    (halike : s.Alike (before ++ [s.stop]) mirrored) (he : s.first.length < e.left) :
    ∃ fields' f, d.StructVisits fields' f ∧ s.SameFields fields fields' ∧ s.Mirrors e f := by
  obtain ⟨b, hb, hopening, hvisits⟩ := h
  obtain ⟨brace, hrest, his, hline⟩ := exists_rest_of_expect hopening
  rw [hrest] at hc
  cases before with
  | nil =>
      obtain ⟨rfl, -⟩ := List.cons_eq_cons.mp hc
      rw [s.is_stop_eq_false (by decide) (by decide)] at his
      cases his
  | cons t before =>
      obtain ⟨rfl, hbefore⟩ := List.cons_eq_cons.mp hc
      cases halike with
      | @cons _ u _ mirrored head _ tail =>
          have hu := s.mirrors head
          obtain ⟨hleft, hsome⟩ := eat?_of_rest hd (hu.is_eq ▸ his)
          have hopening' : d.expect Token.openBrace = .ok ⟨_, hleft⟩ := by
            rw [expect, hsome]
          have hmirrors : s.Mirrors b.forget (d.past u (mirrored ++ s.second)).forget :=
            ⟨before, mirrored, hbefore, rfl, tail, hline ▸ hu.line_eq, fun _ => .nil⟩
          obtain ⟨fields', f, hvisits', hsame, hef⟩ := hmirrors.fieldVisits hvisits he
          exact ⟨fields', f, ⟨_, hleft, hopening', hvisits'⟩, hsame, hef⟩

theorem StructVisits.atMember (h : LaidOut text tokens) (hc : c.rest <:+ tokens)
    (hvisits : c.StructVisits fields d) : d.AtMember text tokens := by
  obtain ⟨b, hb, hopening, hvisits⟩ := hvisits
  exact hvisits.atMember h (atMember_of_brace h hc hopening)

/-- Reading stands in a text, behind some of its tokens. -/
def StandsBehind (text : String) (front : List Token) (c : Cursor) : Prop :=
  Token.scan text = .ok (front ++ c.rest)

end Cursor

/-! ## The place -/

/-- The line end behind a beginning of a text stands between two lines of a struct, which begins
behind the tokens `front`.  Above the place the struct has the fields `first`; from the last of them
and the comment on its line, or from the brace, only line ends and comments lead up to it, the
`gap`. -/
structure FieldSeam (above below : List Char) (earlier front : List Token) (c : Cursor)
    (first : List Field) (gap : List Token) : Prop where
  tiles : Tiles (above ++ '\n' :: below) earlier above ('\n' :: below)
  stands : c.StandsBehind (String.ofList (above ++ '\n' :: below)) front
  between : ∃ later d, front ++ c.rest = earlier ++ lineEndBehind above :: later ∧
    c.StructVisits first d ∧ d.rest = gap ++ lineEndBehind above :: later
  isTrivia : ∀ t ∈ gap, Cursor.isTrivia t

section Place

variable {above lines below : List Char} {earlier inserted front gap : List Token}
  {c d e : Cursor} {first last : List Field}

/-- Up to the new line the struct is read as before. -/
theorem FieldSeam.exists_ends (h : FieldSeam above below earlier front c first gap)
    (hinserted : Inserted above lines below earlier inserted)
    (hd : d.StandsBehind (withLines above lines below) front) :
    ∃ (a b : Cursor) (later : List Token) (finish : Token), finish.IsEnd ∧
      c.StructVisits first a ∧ d.StructVisits first b ∧
      List.Forall₂ (Comment.Mirrors 0) a.passed b.passed ∧
      a.rest = gap ++ lineEndBehind above :: (later ++ [finish]) ∧
      b.rest = gap ++ lineEndBehind above :: (inserted ++ lineEndBehind (above ++ '\n' :: lines) ::
        (later ++ [finish]).map (Token.down (lines.count '\n' + 1))) ∧
      a.AtMember (above ++ '\n' :: below) (front ++ c.rest) := by
  obtain ⟨later, a, htokens, hvisits, ha⟩ := h.between
  have hscan := h.stands
  rw [Cursor.StandsBehind, htokens] at hscan
  obtain ⟨later, finish, rfl, hfinish⟩ := exists_end_of_scan hscan (by nofun)
  have hnew := Except.ok.inj (hd.symm.trans (hinserted.scan_withLines h.tiles hscan))
  -- the tokens of the struct up to the place are the same
  obtain ⟨mid, hmid⟩ := hvisits.onward
  have hc : c.rest = mid ++ gap ++ lineEndBehind above :: (later ++ [finish]) := by
    rw [← hmid, ha, List.append_assoc]
  obtain rfl : earlier = front ++ (mid ++ gap) := by
    rw [hc, ← List.append_assoc] at htokens
    exact (List.append_cancel_right htokens).symm
  rw [List.append_assoc] at hnew
  let s : Cursor.Cut := .below 0 (lineEndBehind above) (later ++ [finish])
    (inserted ++ lineEndBehind (above ++ '\n' :: lines) ::
      (later ++ [finish]).map (Token.down (lines.count '\n' + 1))) True (.inl ⟨rfl, rfl⟩)
  have hd' : d.rest = (mid ++ gap ++ [s.stop]).map (Token.down 0) ++ s.second := by
    have hdown : Token.down 0 = id := rfl
    rw [List.append_cancel_left hnew, hdown, List.map_id]
    simp [s]
  have hlt : s.first.length < a.left := by
    simp only [s, Cursor.left, ha, List.length_append, List.length_cons]
    omega
  obtain ⟨first', b, hvisits', hsame, hab⟩ := hvisits.mirror (s := s) hc hd' (.of_map_down _) hlt
  have hfirst : first' = first := (hsame.eq_down trivial).trans (List.map_id first)
  subst hfirst
  obtain ⟨gap', mirrored, ha', hb, halike, -, hpassed⟩ := hab
  obtain rfl : gap = gap' := List.append_cancel_right (ha.symm.trans ha')
  have hlaid := laidOut_of_scan h.stands
  rw [String.toList_ofList] at hlaid
  refine ⟨a, b, later, finish, hfinish, hvisits, hvisits', hpassed trivial, ha, ?_,
    hvisits.atMember hlaid ⟨front, rfl⟩⟩
  have hdown : Token.down 0 = id := rfl
  rw [hb, halike.eq_map_down, hdown, List.map_id, List.append_assoc]
  rfl

/-! ## The new field -/

/-- In front of a line end some tokens are read as a field, which is given for every
documentation. -/
def ReadsAsField (tokens : List Token) (new : String → Field) : Prop :=
  ∀ (c : Cursor) (docs : String) (lineEnd : Token) (rest : List Token), lineEnd.kind = .newline →
    lineEnd.text = "\n" → c.rest = tokens ++ lineEnd :: rest →
    c.Reads (c.parseFieldLine docs) [new docs] (lineEnd :: rest)

/-- A struct is read with a new field between those of another one, which come before it and after
it, the latter so many lines further down.  They are the same up to layout.  If the new field stands
`apart` from a comment, they are the same up to lines, and the new field has no documentation. -/
def ReadsWithField (d : Cursor) (first : List Field) (new : Field) (last : List Field)
    (rest : List Token) (lines : Nat) (apart : Prop) : Prop :=
  ∃ last' f, d.ReadsStruct (first ++ new :: last') f ∧ f.rest = rest.map (Token.down lines) ∧
    last'.map Field.eraseLayout = last.map Field.eraseLayout ∧
    (apart → new.docs = "" ∧ last' = last.map (Field.down lines))

/-- The last token in front of a line end is no comment. -/
def EndsUncommented (gap : List Token) : Prop := ∀ t ∈ gap.getLast?, t.kind ≠ .comment

/-- A token that begins a line is not passed over, and it ends no struct. -/
theorem Cursor.declaresFields_of_reads {t lineEnd : Token} {more rest : List Token} {new : Field}
    (hc : c.skipTrivia.rest = t :: more) (hkind : t.kind = .ident) (hname : isName t.text)
    (hline : lineEnd.kind = .newline) (hread : c.skipTrivia.forget.Reads
      (c.skipTrivia.forget.parseFieldLine (c.skipTrivia.docs t.pos.line)) [new] (lineEnd :: rest)) :
    ∃ line, c.DeclaresFields [new] (c.skipTrivia.forget.jump line (lineEnd :: rest)) := by
  have hcurrent : c.skipTrivia.current = t := current_of_rest hc
  obtain ⟨line, hleft, hread⟩ := hread
  have htrail : (c.skipTrivia.forget.jump line (lineEnd :: rest)).skipTrailingComment =
      c.skipTrivia.forget.jump line (lineEnd :: rest) := by
    rw [skipTrailingComment_of_rest rfl, if_neg]
    rintro ⟨hcomment, -⟩
    rw [hline] at hcomment
    cases hcomment
  refine ⟨line, ?_, ?_, _, hleft, ?_, ?_, htrail⟩
  · refine eat?_eq_none_of_current ?_
    rw [hcurrent]
    exact Token.is_eq_false_of_isName hkind hname (by decide)
  · rw [isAtEnd, hcurrent, hkind]
    rfl
  · rw [hcurrent]
    exact hread
  · rw [htrail, current_jump, endsField, hline]
    rfl

/-- In front of a name nothing is passed over. -/
theorem Cursor.skipTrivia_eq_of_ident {t : Token} {more : List Token} (hc : c.rest = t :: more)
    (hkind : t.kind = .ident) : c.skipTrivia = c := by
  rw [skipTrivia_of_rest hc, hkind, if_neg (by decide), if_neg]
  rintro (hnewline | ⟨hpunct, -⟩)
  · cases hnewline
  · cases hpunct

theorem LaidOut.line_lt_of_suffix {text : List Char} {tokens later : List Token} {lineEnd : Token}
    (h : LaidOut text tokens) (hsuffix : gap ++ lineEnd :: later <:+ tokens)
    (hnewline : lineEnd.kind = .newline) : ∀ u ∈ later, lineEnd.pos.line < u.pos.line := by
  intro u hu
  obtain ⟨taken, htokens⟩ := hsuffix
  rw [← List.append_assoc] at htokens
  exact h.line_lt_of_newline htokens.symm hnewline hu

/-- **A new line in a struct is read in between, and the other fields stay as they are.** -/
theorem FieldSeam.readsWithField (h : FieldSeam above below earlier front c first gap)
    (hinserted : Inserted above lines below earlier inserted)
    (hd : d.StandsBehind (withLines above lines below) front)
    (hread : c.ReadsStruct (first ++ last) e) {t : Token} {more : List Token}
    (hbegins : inserted = t :: more) (hkind : t.kind = .ident) (hname : isName t.text)
    {new : String → Field} (hdocs : ∀ docs, (new docs).docs = docs)
    (hnew : ReadsAsField inserted new) :
    ∃ docs, ReadsWithField d first (new docs) last e.rest (lines.count '\n' + 1)
      (EndsUncommented gap) := by
  obtain ⟨a, b, later, finish, hfinish, hvisits, hvisits', hpassed, ha, hb, hmember⟩ :=
    h.exists_ends hinserted hd
  obtain ⟨last, hlast, heq⟩ := hvisits.readsStruct_iff.mp hread
  obtain rfl := List.append_cancel_left heq
  have hlaid := laidOut_of_scan h.stands
  have hlaid' := laidOut_of_scan hd
  rw [String.toList_ofList] at hlaid
  obtain ⟨a', ha', hline, hpassed_a, hskip⟩ := Cursor.exists_past_trivia ha h.isTrivia rfl
  obtain ⟨b', hb', -, hpassed_b, hskip'⟩ := Cursor.exists_past_trivia hb h.isTrivia rfl
  have hold (happart : EndsUncommented gap) :
      ∀ x ∈ a'.passed, x.line < (lineEndBehind above).pos.line := by
    rw [hpassed_a]
    exact hmember.line_lt hlaid ha rfl happart
  -- the new line is read, up to its end
  let lineEnd := lineEndBehind (above ++ '\n' :: lines)
  let moved := (later ++ [finish]).map (Token.down (lines.count '\n' + 1))
  have hfirst : b'.rest = t :: (more ++ lineEnd :: moved) := by
    rw [hb', hbegins]
    rfl
  rw [Cursor.skipTrivia_eq_of_ident hfirst hkind] at hskip'
  obtain ⟨line, hdeclares⟩ : ∃ line, b.DeclaresFields [new (b'.docs t.pos.line)]
      (b'.forget.jump line (lineEnd :: moved)) := by
    rw [← hskip'] at hfirst hb' ⊢
    exact Cursor.declaresFields_of_reads hfirst hkind hname rfl (hnew _ _ _ _ rfl rfl hb')
  -- what is below the place is read behind it, with nothing remembered
  let r := (b'.forget.jump line (lineEnd :: moved)).past lineEnd moved
  have hbelow : ∀ u ∈ a'.rest, (lineEndBehind above).pos.line < u.pos.line := by
    rw [ha']
    exact hlaid.line_lt_of_suffix (ha ▸ hmember.noted.suffix) rfl
  have hr : r.lastLine = a'.lastLine + (lines.count '\n' + 1) := by
    rw [hline]
    exact line_lineEndBehind above lines
  obtain ⟨last', f, hlast', hf, herase, hdown⟩ := ((Cursor.readsFields_congr hskip).mp hlast).down
    (d := r) hfinish ha' rfl hr rfl hbelow hold
  have hskip_r : (b'.forget.jump line (lineEnd :: moved)).skipTrivia = r.skipTrivia := by
    rw [Cursor.skipTrivia_of_rest rfl, if_neg (by nofun), if_pos (.inl rfl)]
  have hread' : b.ReadsFields (new (b'.docs t.pos.line) :: last') f :=
    hdeclares.readsFields_iff.mpr ⟨last', (Cursor.readsFields_congr hskip_r).mpr hlast', rfl⟩
  refine ⟨b'.docs t.pos.line, last', f, hvisits'.readsStruct_iff.mpr ⟨_, hread', rfl⟩, hf, herase,
    fun happart => ⟨?_, hdown happart⟩⟩
  have hseam : (lineEndBehind above).pos.line < t.pos.line := by
    have hbd : b.rest <:+ d.rest := hvisits'.onward
    have hsuffix : b.rest <:+ front ++ d.rest := hbd.trans ⟨front, rfl⟩
    refine hlaid'.line_lt_of_suffix (hb ▸ hsuffix) rfl t ?_
    rw [hbegins]
    exact List.mem_cons_self
  rw [hdocs]
  refine Cursor.docs_eq_empty hseam fun x hx => ?_
  have hold := hold happart
  rw [hpassed_a] at hold
  rw [hpassed_b] at hx
  rcases List.mem_append.mp hx with hx | hx
  · exact hold x (List.mem_append_left _ hx)
  · obtain ⟨y, hy, hline⟩ := Comment.exists_mem_of_mirrors hpassed hx
    rw [hline]
    exact hold y (List.mem_append_right _ hy)

end Place

end GoSchema.Go
