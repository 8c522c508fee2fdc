import GoSchema.Proofs.Go.DocumentedItems
import GoSchema.Proofs.Go.Insertion

/-!
# The documentation of a file

The documentation of every item of a file is the block of comments directly above it, with one
exception (`docs_of_ofText`).  A comment behind other code on the line above the block becomes part of
it, unless it stands behind a field or a member: only there it is looked for and passed over.  So the
comment behind one declaration documents the next one (`docs_ne_docsAbove`).

What is left to be shown after `DocumentedItems` is about declarations.  The readers of a file stand
between two items (`Settled`) because of how items end (`EndsWithin`, `StopsOnLine`), and that a
declaration of a group does not begin with the word `type` of the one before has the same reason.
-/

namespace GoSchema.Go

open Cursor (isTrivia commentsOf)

namespace Cursor

variable {text : List Char} {tokens : List Token} {c d e : Cursor} {t : Token}

/-! ## Declarations -/

theorem documented_of_parseKind (h : LaidOut text tokens) (hc : c.rest <:+ tokens)
    {kind : Declaration.Kind} {d : c.Later} (hparse : c.parseKind = .ok (some kind, d)) :
    ∀ i ∈ kind.items, i.Documented text tokens := by
  unfold parseKind at hparse
  split at hparse
  · next d hd heat =>
    obtain ⟨⟨fields, e, he⟩, hstruct, hparse⟩ := ok_of_bind_iff.mp hparse
    cases hparse
    obtain ⟨⟨f, hf⟩, hbrace, hstruct⟩ := ok_of_bind_iff.mp hstruct
    obtain ⟨⟨fields', g, hg⟩, hfields, hstruct⟩ := ok_of_bind_iff.mp hstruct
    cases hstruct
    have hcd : c.Onward d := motion_onward.passes_eat? heat (by decide)
    have hd : d.rest <:+ tokens := List.IsSuffix.trans hcd hc
    have hat := atMember_of_brace h hd hbrace
    exact List.forall_mem_map.mpr (documented_of_parseFields h _ hat hfields)
  · split at hparse
    · next d hd heat =>
      obtain ⟨⟨members?, e, he⟩, hinterface, hparse⟩ := ok_of_bind_iff.mp hparse
      obtain ⟨⟨f, hf⟩, hbrace, hinterface⟩ := ok_of_bind_iff.mp hinterface
      obtain ⟨⟨members?', g, hg⟩, hmembers, hinterface⟩ := ok_of_bind_iff.mp hinterface
      cases hinterface
      cases members? with
      | none => cases hparse
      | some members =>
          cases hparse
          have hcd : c.Onward d := motion_onward.passes_eat? heat (by decide)
          have hd : d.rest <:+ tokens := List.IsSuffix.trans hcd hc
          have hat := atMember_of_brace h hd hbrace
          exact List.forall_mem_map.mpr (documented_of_parseMembers h _ hat hmembers)
    · obtain ⟨⟨type, e, he⟩, -, hparse⟩ := ok_of_bind_iff.mp hparse
      cases hparse
      exact List.forall_mem_nil _

theorem documented_of_parseDeclaration (h : LaidOut text tokens) (hc : c.rest <:+ tokens)
    {file docs : String} {declaration : Declaration} {d : c.Later}
    (hparse : (c.parseDeclaration file docs).value = .ok (some declaration, d)) :
    declaration.docs = docs ∧ (∃ name more, c.rest = name :: more ∧ name.pos = declaration.pos) ∧
      ∀ i ∈ declaration.kind.items, i.Documented text tokens := by
  rw [value_parseDeclaration_eq] at hparse
  obtain ⟨⟨name, e, he⟩, hname, hparse⟩ := ok_of_bind_iff.mp hparse
  dsimp only at hparse
  split at hparse
  · obtain ⟨f, -, hparse⟩ := ok_of_bind_iff.mp hparse
    cases hparse
  · obtain ⟨⟨kind?, f, hf⟩, hkind, hparse⟩ := ok_of_bind_iff.mp hparse
    cases kind? with
    | none => cases hparse
    | some kind =>
        cases hparse
        have hce : c.Onward e := (motion_onward.halts_expectIdent c).leads _ hname
        have hef := hce.trans (motion_onward.passes_eatIf e (by decide : "=" ≠ ""))
        exact ⟨rfl, ⟨name, _, rest_of_expectIdent hname, rfl⟩,
          documented_of_parseKind h (List.IsSuffix.trans hef hc) hkind⟩

/-- What is remembered is among the comments up to the last token that was taken. -/
theorem Noted.passed_sublist {before : List Token} {w : Token} (hc : c.Noted tokens)
    (htokens : tokens = before ++ w :: c.rest) :
    c.passed.reverse.Sublist (commentsOf (before ++ [w])) := by
  obtain ⟨taken, htaken, hpassed, -⟩ := hc
  rw [List.append_cons] at htokens
  rwa [← List.append_cancel_right (htaken.symm.trans htokens)]

/-- What ends on a line, or with the file, leaves the reader between two items. -/
theorem Noted.settled (h : LaidOut text tokens) (hd : d.Noted tokens) (hc : c.rest <:+ tokens)
    (hends : d.next? = none ∨ c.EndsWithin d) : d.Settled text tokens := by
  rcases hends with hnone | ⟨mid, w, hmid, hw⟩
  · exact .atEnd hnone
  · obtain ⟨before, hbefore⟩ := hc
    rw [hmid, ← List.append_assoc] at hbefore
    have hmem : w ∈ tokens := by simp [← hbefore]
    refine .behind hbefore.symm (hd.passed_sublist hbefore.symm) (fun hkind => ?_) fun halone => ?_
    · have hline : w.IsLineEnd := ⟨hkind, h.text_of_newline w hmem hkind⟩
      exact (hw.elim Token.not_isLineEnd_of_closers And.left) hline
    · rcases hw with hcloses | ⟨-, u, hu, hline⟩
      · obtain ⟨closer, -, his⟩ := List.any_eq_true.mp hcloses
        exact Token.not_standsAlone_of_is his halone
      · -- a comment that is not the first token of its line does not stand alone
        have hlast : u ∈ (before ++ mid).getLast? := by
          rw [List.getLast?_append, hu]
          rfl
        have hkind := (h.follows_getLast? hbefore.symm hlast).of_standsAlone halone
        have hu : u ∈ tokens := by
          rw [← hbefore]
          exact List.mem_append_left _ (List.mem_of_getLast? hlast)
        exact hline ⟨hkind, h.text_of_newline u hu hkind⟩

theorem Behind.settled (h : LaidOut text tokens) (hc : c.Behind tokens) :
    c.Settled text tokens := by
  obtain ⟨taken, w, htokens, hpassed, -, hcloses⟩ := hc
  obtain ⟨hnewline, hcomment⟩ := kind_of_closes h (by simp [htokens]) hcloses
  refine .behind htokens (hpassed.trans ?_) hnewline (not_standsAlone_of_kind hcomment)
  rw [commentsOf_append]
  exact List.sublist_append_left _ _

theorem next?_eq_none_iff : c.next? = none ↔ ∀ t ∈ c.rest.head?, t.kind = .finish := by
  constructor
  · intro hnone t ht
    by_contra hkind
    obtain ⟨rest, hrest⟩ := List.head?_eq_some_iff.mp ht
    obtain ⟨hleft, hnext⟩ := next?_of_rest hrest hkind
    rw [hnone] at hnext
    cases hnext
  · intro hfinish
    cases hnext : c.next? with
    | none => rfl
    | some first =>
        obtain ⟨t, d⟩ := first
        obtain ⟨hrest, hkind, -⟩ := exists_rest_of_next? hnext
        exact absurd (hfinish t (by rw [hrest]; rfl)) hkind

theorem Settled.forget (hc : c.Settled text tokens) : c.forget.Settled text tokens := by
  cases hc with
  | atEnd hnone =>
      have hfinish := next?_eq_none_iff.mp hnone
      exact .atEnd (next?_eq_none_iff.mpr hfinish)
  | first hrest _ => exact .first hrest rfl
  | behind htokens _ hnewline halone => exact .behind htokens (List.nil_sublist _) hnewline halone

/-- A word, and something that is passed over behind it. -/
theorem Noted.settled_of_stops (h : LaidOut text tokens) (he : e.Noted tokens)
    (hc : c.rest <:+ tokens) (hrest : c.rest = t :: d.rest) {word : String} (ht : t.is word)
    (hword : word ≠ "\n") (hstops : d.StopsOnLine 0 e) : e.Settled text tokens := by
  have hsteps : c.Steps d := ⟨[], t, hrest, Token.not_isLineEnd_of_is ht hword⟩
  rcases hstops with hnone | ⟨-, heq⟩ | ⟨hends, -⟩
  · exact .atEnd hnone
  · obtain ⟨before, hbefore⟩ := hc
    rw [hrest, ← heq] at hbefore
    refine .behind hbefore.symm (he.passed_sublist hbefore.symm) (fun hkind => ?_)
      (Token.not_standsAlone_of_is ht)
    exact Token.not_isLineEnd_of_is ht hword
      ⟨hkind, h.text_of_newline t (by simp [← hbefore]) hkind⟩
  · exact he.settled h hc (.inr (hsteps.endsWithin hends))

/-- The reader stands in front of a declaration of a group, and the word `type` is not the last token
before and the first one of its line. -/
structure AtDeclaration (text : List Char) (tokens : List Token) (c : Cursor) : Prop where
  noted : c.Noted tokens
  settled : c.Settled text tokens
  lined : c.next? = none ∨ ∀ taken w, tokens = taken ++ w :: c.rest → w.is "type" →
    ∃ u ∈ taken.getLast?, ¬u.IsLineEnd

/-- A word `type` in front of a declaration of a group is not the first token of its line: it is the
last one of the declaration before. -/
theorem AtDeclaration.exists_before_word (h : LaidOut text tokens)
    (hc : c.AtDeclaration text tokens) {start after : List Token} {word : Token}
    (hrest : c.skipTrivia.rest = t :: after) (hkind : t.kind ≠ .finish)
    (htokens : tokens = start ++ [word] ++ t :: after) (hword : word.is "type") :
    ∃ u ∈ start.getLast?, u.kind ≠ .newline := by
  obtain ⟨trivia, hrest', htrivia, -⟩ := c.exists_trivia
  rw [hrest] at hrest'
  obtain ⟨taken, htaken, -⟩ := hc.noted
  have hfront : start ++ [word] = taken ++ trivia := by
    rw [hrest', ← List.append_assoc] at htaken
    exact List.append_cancel_right (htokens.symm.trans htaken)
  obtain rfl | ⟨trivia, v, rfl⟩ := List.eq_nil_or_concat trivia
  · rw [List.append_nil] at hfront
    rw [← hfront, ← List.append_cons] at htaken
    rcases hc.lined with hnone | hlined
    · have hfinish := next?_eq_none_iff.mp hnone t (by rw [hrest']; rfl)
      exact absurd hfinish hkind
    · obtain ⟨u, hu, hline⟩ := hlined start word htaken hword
      have hu' : u ∈ tokens := by
        rw [htaken]
        exact List.mem_append_left _ (List.mem_of_getLast? hu)
      exact ⟨u, hu, fun hnewline => hline ⟨hnewline, h.text_of_newline u hu' hnewline⟩⟩
  · -- what is passed over is no word
    rw [List.concat_eq_append] at hfront htrivia
    rw [← List.append_assoc] at hfront
    obtain ⟨-, hlast⟩ := List.append_inj' hfront rfl
    cases hlast
    have hnot := is_eq_false_of_isTrivia h (by simp [htokens]) (htrivia word (by simp))
      (show "type" ∉ ["\n", ";"] by decide)
    rw [hnot] at hword
    cases hword

theorem AtDeclaration.documented (h : LaidOut text tokens) (hc : c.AtDeclaration text tokens)
    {after : List Token} (hrest : c.skipTrivia.rest = t :: after) (hkind : t.kind ≠ .finish) :
    Item.Documented ⟨false, t.pos, c.skipTrivia.docs t.pos.line⟩ text tokens := by
  obtain ⟨before, htokens, hdocs⟩ :=
    docs_skipTrivia false h hc.settled (fun hmember => absurd hmember Bool.false_ne_true) hrest
      hkind
  by_cases hword : ∃ start word, before = start ++ [word] ∧ word.is "type"
  · obtain ⟨start, word, rfl, his⟩ := hword
    refine ⟨start, word, ⟨t :: after, start ++ [word], t, after, ?_, htokens, rfl,
      .inr ⟨word, rfl, his⟩⟩, fun hfirst => ?_⟩
    · rw [htokens, ← List.append_cons]
    · obtain ⟨u, hu, hnewline⟩ := hc.exists_before_word h hrest hkind htokens his
      exact absurd (hfirst u hu) hnewline
  · refine ⟨before, t, ⟨after, before, t, after, htokens, htokens, rfl, .inl ⟨rfl, ?_⟩⟩, hdocs⟩
    intro u hu
    by_contra his
    obtain rfl | ⟨front, v, rfl⟩ := List.eq_nil_or_concat before
    · cases hu
    · rw [List.concat_eq_append] at hu hword
      rw [List.getLast?_concat] at hu
      cases hu
      exact hword ⟨front, u, rfl, by simpa using his⟩

theorem EndsWithin.lined (hc : c.rest <:+ tokens) (hends : c.EndsWithin d) (taken : List Token)
    (w : Token) (htaken : tokens = taken ++ w :: d.rest) (hw : w.is "type") :
    ∃ u ∈ taken.getLast?, ¬u.IsLineEnd := by
  obtain ⟨mid, w', hmid, hends⟩ := hends
  obtain ⟨before, hbefore⟩ := hc
  rw [hmid, ← List.append_assoc] at hbefore
  obtain ⟨rfl, hlast⟩ := List.append_inj' (htaken.symm.trans hbefore.symm) rfl
  cases hlast
  rcases hends with hcloses | ⟨-, u, hu, hline⟩
  · obtain ⟨closer, hcloser, his⟩ := List.any_eq_true.mp hcloses
    have htype : ∀ closer ∈ Token.closers, "type" ≠ closer := by decide
    rw [Token.is_eq_false_of_is hw (htype closer hcloser)] at his
    cases his
  · refine ⟨u, ?_, hline⟩
    rw [List.getLast?_append, hu]
    rfl

theorem documented_of_parseGroup (h : LaidOut text tokens) (c : Cursor)
    (hc : c.AtDeclaration text tokens) {file : String} {declarations : List Declaration}
    {d : c.Later} (hparse : (c.parseGroup file).value = .ok (declarations, d)) :
    ∀ declaration ∈ declarations, ∀ i ∈ declaration.items, i.Documented text tokens := by
  rw [parseGroup] at hparse
  dsimp only at hparse
  split at hparse
  · cases hparse
    exact List.forall_mem_nil _
  · split at hparse
    · cases hparse
    · next hend =>
      obtain ⟨t, after, hrest, hkind, hcurrent⟩ := exists_rest_of_isAtEnd hend
      simp only [Reading.value_bind] at hparse
      obtain ⟨⟨declaration?, e, he⟩, hdeclaration, hparse⟩ := ok_of_bind_iff.mp hparse
      obtain ⟨⟨more, f, hf⟩, hmore, hparse⟩ := ok_of_bind_iff.mp hparse
      cases hparse
      have he' := later_of_skipTrivia he
      have hsuffix : c.skipTrivia.forget.rest <:+ tokens := hc.noted.skipTrivia.suffix
      have hends := endsWithin_parseDeclaration hdeclaration
      have hnoted : e.Noted tokens :=
        ((motion_noted tokens).halts_parseDeclaration _ file _).leads _ hdeclaration
          ((motion_noted tokens).passes_item c hc.noted)
      have hnext : e.AtDeclaration text tokens :=
        ⟨hnoted, hnoted.settled h hsuffix hends, hends.imp_right (EndsWithin.lined hsuffix)⟩
      refine List.forall_mem_append.mpr ⟨?_, documented_of_parseGroup h e hnext hmore⟩
      intro declaration hmem
      cases Option.mem_toList.mp hmem
      obtain ⟨hdocs, ⟨name, rest, hname, hpos⟩, hitems⟩ :=
        documented_of_parseDeclaration h hsuffix hdeclaration
      obtain ⟨rfl, -⟩ := List.cons_eq_cons.mp (hrest.symm.trans hname)
      refine List.forall_mem_cons.mpr ⟨?_, hitems⟩
      rw [hdocs, ← hpos, hcurrent]
      exact hc.documented h hrest hkind
termination_by c.left

/-- Behind the parenthesis that opens a group. -/
theorem atDeclaration_of_parenthesis (h : LaidOut text tokens) (hc : c.Noted tokens)
    {d : c.Later} (heat : c.eat? "(" = some d) : d.1.forget.AtDeclaration text tokens := by
  obtain ⟨t, hrest, his, -⟩ := exists_rest_of_eat? heat
  have hnoted : d.1.forget.Noted tokens :=
    (motion_noted tokens).forget d.1 ((motion_noted tokens).passes_eat? heat (by decide) hc)
  obtain ⟨taken, htaken, -⟩ := hc
  rw [hrest] at htaken
  refine ⟨hnoted, .behind htaken (List.nil_sublist _) (fun hkind => ?_)
    (Token.not_standsAlone_of_is his), .inr ?_⟩
  · exact Token.not_isLineEnd_of_is his (by decide)
      ⟨hkind, h.text_of_newline t (by simp [htaken]) hkind⟩
  · intro taken' w htaken' hw
    obtain ⟨-, hlast⟩ := List.append_inj' (htaken'.symm.trans htaken) rfl
    cases hlast
    rw [Token.is_eq_false_of_is his (by decide)] at hw
    cases hw

/-! ## Files -/

/-- The declarations at a word `type` between two items of a file. -/
theorem documented_of_parseTypes (h : LaidOut text tokens) (hc : c.Noted tokens)
    (hsettled : c.Settled text tokens) {d : c.skipTrivia.Later}
    (hnext : c.skipTrivia.next? = some (t, d)) (ht : t.is "type") {file : String}
    {declarations : List Declaration} {e : d.1.Within}
    (hparse : (d.1.parseTypes file t.pos.line).value = .ok (declarations, e)) :
    (∀ declaration ∈ declarations, ∀ i ∈ declaration.items, i.Documented text tokens) ∧
      e.1.Settled text tokens := by
  have hd : d.1.Noted tokens := (motion_noted tokens).next hnext hc.skipTrivia
  obtain ⟨hrest, hkind, hpast⟩ := exists_rest_of_next? hnext
  unfold parseTypes at hparse
  split at hparse
  · next f hf heat =>
    rw [Reading.value_bind] at hparse
    obtain ⟨⟨declarations, g, hg⟩, hgroup, hparse⟩ := ok_of_bind_iff.mp hparse
    cases hparse
    have hat := atDeclaration_of_parenthesis h hd heat
    have hbehind : g.Behind tokens :=
      ((motion_noted tokens).halts_parseGroup _ file).leads _ hgroup hat.noted
    exact ⟨documented_of_parseGroup h _ hat hgroup, hbehind.settled h⟩
  · rw [Reading.value_bind] at hparse
    obtain ⟨⟨declaration?, f, hf⟩, hdeclaration, hparse⟩ := ok_of_bind_iff.mp hparse
    cases hparse
    have hsuffix : d.1.forget.rest <:+ tokens := hd.suffix
    have hnoted : f.Noted tokens :=
      ((motion_noted tokens).halts_parseDeclaration _ file _).leads _ hdeclaration
        ((motion_noted tokens).forget _ hd)
    refine ⟨?_, hnoted.settled h hsuffix (endsWithin_parseDeclaration hdeclaration)⟩
    intro declaration hmem
    cases Option.mem_toList.mp hmem
    obtain ⟨hdocs, ⟨name, more, hname, hpos⟩, hitems⟩ :=
      documented_of_parseDeclaration h hsuffix hdeclaration
    -- a declaration that stands alone begins with the word in front of its name
    obtain ⟨before, htokens, hblock⟩ := docs_skipTrivia false h hsettled
      (fun hmember => absurd hmember Bool.false_ne_true) hrest hkind
    refine List.forall_mem_cons.mpr ⟨⟨before, t, ⟨_, before ++ [t], name, more, htokens, ?_, hpos,
      .inr ⟨t, rfl, ht⟩⟩, ?_⟩, hitems⟩
    · rw [htokens, List.append_cons]
      exact congrArg _ hname
    · have hsame : d.1.docs t.pos.line = c.skipTrivia.docs t.pos.line := by
        rw [hpast]
        rfl
      rw [hdocs, hsame]
      exact hblock

/-- A declaration that is passed over ends with its closing parenthesis, or with its statement. -/
theorem Noted.settled_of_skipDeclaration (h : LaidOut text tokens) (hd : d.Noted tokens)
    (hc : c.rest <:+ tokens) (hrest : c.rest = t :: d.rest) {word : String} (ht : t.is word)
    (hword : word ≠ "\n") {e : d.Within} (hskip : d.skipDeclaration = .ok e) :
    e.1.Settled text tokens := by
  unfold skipDeclaration at hskip
  split at hskip
  · next f hf heat =>
    obtain ⟨⟨g, hg⟩, hbalanced, hskip⟩ := ok_of_bind_iff.mp hskip
    cases hskip
    have hf : f.Noted tokens := (motion_noted tokens).passes_eat? heat (by decide) hd
    have hbehind : g.Behind tokens :=
      ((motion_noted tokens).halts_skipBalanced f "(" 0 (by decide)).leads _ hbalanced hf
    exact hbehind.settled h
  · cases hskip
    have hnoted := (motion_noted tokens).passes_skipStatement d 0 hd
    exact hnoted.settled_of_stops h hc hrest ht hword (stopsOnLine_skipStatement d 0)

theorem documented_of_parseItem (h : LaidOut text tokens) (hc : c.Noted tokens)
    (hsettled : c.Settled text tokens) {file : String} {r : Option String × List Declaration}
    {d : c.Later} (hparse : c.parseItem file = .ok (some (r, d))) :
    (∀ declaration ∈ r.2, ∀ i ∈ declaration.items, i.Documented text tokens) ∧
      d.1.Settled text tokens := by
  rw [parseItem] at hparse
  split at hparse
  · cases hparse
  · next t e he hnext =>
    have he : e.Noted tokens := (motion_noted tokens).next hnext hc.skipTrivia
    have hrest := rest_eq_of_next? hnext
    dsimp only at hparse
    split at hparse
    · obtain ⟨⟨name, f, hf⟩, hname, hparse⟩ := ok_of_bind_iff.mp hparse
      cases hparse
      have hbehind : f.Behind tokens := ((motion_noted tokens).halts_expectIdent e).leads _ hname he
      exact ⟨List.forall_mem_nil _, (hbehind.settled h).forget⟩
    · split at hparse
      · next htype =>
        obtain ⟨⟨declarations, f, hf⟩, htypes, hparse⟩ := ok_of_bind_iff.mp hparse
        cases hparse
        exact documented_of_parseTypes h hc hsettled hnext htype htypes
      · have hsuffix : c.skipTrivia.rest <:+ tokens := hc.skipTrivia.suffix
        split at hparse
        · next hfunc =>
          obtain ⟨⟨f, hf⟩, hskip, hparse⟩ := ok_of_bind_iff.mp hparse
          cases hparse
          have hnoted : f.Noted tokens :=
            ((motion_noted tokens).halts_skipFunction e _ _).leads _ hskip he
          have hstops := stopsOnLine_skipFunction e 0 "" _ hskip
          exact ⟨List.forall_mem_nil _,
            (hnoted.settled_of_stops h hsuffix hrest hfunc (by decide) hstops).forget⟩
        · split at hparse
          · next hword =>
            obtain ⟨word, hmem, his⟩ := List.any_eq_true.mp hword
            have hline : ∀ word ∈ ["import", "const", "var"], word ≠ "\n" := by decide
            obtain ⟨⟨f, hf⟩, hskip, hparse⟩ := ok_of_bind_iff.mp hparse
            cases hparse
            exact ⟨List.forall_mem_nil _, (he.settled_of_skipDeclaration h hsuffix hrest his
              (hline word hmem) hskip).forget⟩
          · cases hparse

theorem documented_of_parseRest (h : LaidOut text tokens) (c : Cursor) (hc : c.Noted tokens)
    (hsettled : c.Settled text tokens) {file : String} {package? : Option String}
    {r : Option String × List Declaration}
    (hparse : (c.parseRest file package?).value = .ok r) :
    ∀ declaration ∈ r.2, ∀ i ∈ declaration.items, i.Documented text tokens := by
  rw [value_parseRest] at hparse
  obtain ⟨item?, hitem, hparse⟩ := ok_of_bind_iff.mp hparse
  cases item? with
  | none =>
      cases hparse
      exact List.forall_mem_nil _
  | some item =>
      obtain ⟨⟨name?, declarations⟩, d, hd⟩ := item
      obtain ⟨⟨package?', more⟩, hmore, hparse⟩ := ok_of_bind_iff.mp hparse
      cases hparse
      obtain ⟨hdeclarations, hsettled'⟩ := documented_of_parseItem h hc hsettled hitem
      have hnoted : d.Noted tokens :=
        ((motion_noted tokens).halts_parseItem c file).leads _ hitem hc
      exact List.forall_mem_append.mpr
        ⟨hdeclarations, documented_of_parseRest h d hnoted hsettled' hmore⟩
termination_by c.left

end Cursor

theorem documented_of_ofText {file text : String} {f : File} {tokens : List Token}
    (h : (File.ofText file text).value = .ok f) (htokens : Token.scan text = .ok tokens) :
    ∀ i ∈ f.items, i.Documented text.toList tokens := by
  rw [File.value_ofText_of_scan htokens] at h
  obtain ⟨⟨package?, declarations⟩, hparse, h⟩ := ok_of_bind_iff.mp h
  cases package? with
  | none => cases h
  | some package =>
      cases h
      have hnoted : (Cursor.ofTokens tokens).Noted tokens := ⟨[], rfl, List.nil_sublist _, nofun⟩
      have hitems := Cursor.documented_of_parseRest (laidOut_of_scan htokens) _ hnoted
        (.first rfl rfl) hparse
      intro i hi
      obtain ⟨declaration, hdeclaration, hi⟩ := List.mem_flatMap.mp hi
      exact hitems declaration hdeclaration i hi

/-- **Documentation is the block of comments above an item.**  In a file that is read, every item has
a first token.  If that token is the first one of its line, then the documentation of the item is what
the lines directly above say that hold a comment each and nothing else, unless there is a comment on
the line above them.  Above a field or a member even that is possible, if it stands behind the end of
another one on the same line. -/
theorem docs_of_ofText {file text : String} {f : File} {tokens : List Token}
    (h : (File.ofText file text).value = .ok f) (htokens : Token.scan text = .ok tokens) {i : Item}
    (hi : i ∈ f.items) :
    (∃ start t, i.Begins tokens start t) ∧
      ∀ start t, i.Begins tokens start t → (∀ u ∈ start.getLast?, u.kind = .newline) →
        (∀ line, line + (aloneAbove text.toList tokens t.pos.line).length + 1 = t.pos.line →
          IsClear i.isMember tokens line) →
        i.docs = docsAbove text.toList tokens t.pos.line := by
  obtain ⟨start, t, hbegins, hdocs⟩ := documented_of_ofText h htokens i hi
  refine ⟨⟨start, t, hbegins⟩, fun start' t' hbegins' => ?_⟩
  obtain ⟨rfl, rfl⟩ := hbegins.unique (laidOut_of_scan htokens) hbegins'
  exact hdocs

/-- A struct with a comment behind a field and one above the next. -/
def cartText : String :=
  "package shop\n\ntype Cart struct \x7b\n\tID int // key\n\t// Name is shown.\n\tName string\n\x7d\n"

/-- What the text declares. -/
def cartFile : File :=
  ⟨"shop", [⟨"Cart", "", "shop.go", ⟨3, 6⟩, .record
    [⟨some "ID", .ofName "int", .empty, "", ⟨4, 2⟩⟩,
      ⟨some "Name", .ofName "string", .empty, "Name is shown.", ⟨6, 2⟩⟩]⟩]⟩

/-- What is in front of the second field of the struct. -/
def cartFront : List Token :=
  [⟨.ident, "package", ⟨1, 1⟩⟩, ⟨.ident, "shop", ⟨1, 9⟩⟩, ⟨.newline, "\n", ⟨1, 13⟩⟩,
    ⟨.newline, "\n", ⟨2, 1⟩⟩, ⟨.ident, "type", ⟨3, 1⟩⟩, ⟨.ident, "Cart", ⟨3, 6⟩⟩,
    ⟨.ident, "struct", ⟨3, 11⟩⟩, ⟨.punct, "\x7b", ⟨3, 18⟩⟩, ⟨.newline, "\n", ⟨3, 19⟩⟩,
    ⟨.ident, "ID", ⟨4, 2⟩⟩, ⟨.ident, "int", ⟨4, 5⟩⟩, ⟨.comment, "// key", ⟨4, 9⟩⟩,
    ⟨.newline, "\n", ⟨4, 15⟩⟩, ⟨.comment, "// Name is shown.", ⟨5, 2⟩⟩, ⟨.newline, "\n", ⟨5, 19⟩⟩]

/-- The tokens of the text. -/
def cartTokens : List Token :=
  cartFront ++ [⟨.ident, "Name", ⟨6, 2⟩⟩, ⟨.ident, "string", ⟨6, 7⟩⟩, ⟨.newline, "\n", ⟨6, 13⟩⟩,
    ⟨.punct, "\x7d", ⟨7, 1⟩⟩, ⟨.newline, "\n", ⟨7, 2⟩⟩, ⟨.finish, "", ⟨8, 1⟩⟩]

/-- The comment behind a field is no documentation of the next one. -/
theorem docs_of_ofText_cart :
    (File.ofText "shop.go" cartText).value = .ok cartFile ∧
      docsAbove cartText.toList cartTokens 6 = "Name is shown." := by
  have hscan : Token.scan cartText = .ok cartTokens := by
    rewrite [Token.scan, cartText, String.toList_ofList]
    decide +kernel
  have hfile : (File.ofText "shop.go" cartText).value = .ok cartFile := by
    rewrite [File.ofText, hscan]
    decide +kernel
  have hitem : (⟨true, ⟨6, 2⟩, "Name is shown."⟩ : Item) ∈ cartFile.items := by decide
  have hbegins : Item.Begins ⟨true, ⟨6, 2⟩, "Name is shown."⟩ cartTokens cartFront
      ⟨.ident, "Name", ⟨6, 2⟩⟩ := by
    refine ⟨_, _, _, _, rfl, rfl, rfl, .refl, ?_⟩
    rintro earlier ⟨name, comma, trivia, heq, his, -⟩
    have hcomma : ∀ t ∈ cartFront, t.is "," = false := by decide
    rw [hcomma comma (by simp [heq])] at his
    cases his
  have hclear (line : Nat)
      (hline : line + (aloneAbove cartText.toList cartTokens 6).length + 1 = 6) :
      IsClear true cartTokens line := by
    have hlength : (aloneAbove cartText.toList cartTokens 6).length = 1 := by decide +kernel
    obtain rfl : line = 4 := by omega
    decide +kernel
  exact ⟨hfile, ((docs_of_ofText hfile hscan hitem).2 _ _ hbegins (by decide +kernel) hclear).symm⟩

/-- The comment behind a declaration is documentation of the next one. -/
theorem docs_ne_docsAbove :
    ¬∀ (file text : String) (f : File) (tokens : List Token),
      (File.ofText file text).value = .ok f → Token.scan text = .ok tokens →
      ∀ i ∈ f.items, ∀ start t, i.Begins tokens start t →
        i.docs = docsAbove text.toList tokens t.pos.line := by
  intro hall
  let text := "package shop\n\ntype A int // trailing\ntype B int\n"
  let front : List Token := [⟨.ident, "package", ⟨1, 1⟩⟩, ⟨.ident, "shop", ⟨1, 9⟩⟩,
    ⟨.newline, "\n", ⟨1, 13⟩⟩, ⟨.newline, "\n", ⟨2, 1⟩⟩, ⟨.ident, "type", ⟨3, 1⟩⟩,
    ⟨.ident, "A", ⟨3, 6⟩⟩, ⟨.ident, "int", ⟨3, 8⟩⟩, ⟨.comment, "// trailing", ⟨3, 12⟩⟩,
    ⟨.newline, "\n", ⟨3, 23⟩⟩]
  let tokens : List Token := front ++ [⟨.ident, "type", ⟨4, 1⟩⟩, ⟨.ident, "B", ⟨4, 6⟩⟩,
    ⟨.ident, "int", ⟨4, 8⟩⟩, ⟨.newline, "\n", ⟨4, 11⟩⟩, ⟨.finish, "", ⟨5, 1⟩⟩]
  let f : File := ⟨"shop", [⟨"A", "", "shop.go", ⟨3, 6⟩, .defined (.ofName "int")⟩,
    ⟨"B", "trailing", "shop.go", ⟨4, 6⟩, .defined (.ofName "int")⟩]⟩
  have hbegins : Item.Begins ⟨false, ⟨4, 6⟩, "trailing"⟩ tokens front ⟨.ident, "type", ⟨4, 1⟩⟩ :=
    ⟨_, front ++ [⟨.ident, "type", ⟨4, 1⟩⟩], _, _, rfl, rfl, rfl, .inr ⟨_, rfl, by decide⟩⟩
  have hscan : Token.scan text = .ok tokens := by
    rewrite [Token.scan, String.toList_ofList]
    decide +kernel
  have hfile : (File.ofText "shop.go" text).value = .ok f := by
    rewrite [File.ofText, hscan]
    decide +kernel
  have hdocs := hall "shop.go" text f tokens hfile hscan
    ⟨false, ⟨4, 6⟩, "trailing"⟩ (by decide) _ _ hbegins
  have hnone : docsAbove text.toList tokens 4 = "" := by
    rewrite [String.toList_ofList]
    decide +kernel
  rw [hnone] at hdocs
  exact absurd hdocs (by decide)

end GoSchema.Go
