import GoSchema.Proofs.Go.CommentBlocks
import GoSchema.Proofs.Go.ItemEnds
import Mathlib.Logic.Relation

/-!
# Documented items

Declarations, fields of structs and members of interfaces are the items that can be documented.  An
item begins with its name, or with a token in front of it (`Item.Begins`): a declaration that does
not stand in a group with the word `type`, a field that shares its line with others with the first
name of the list.  There is only one such token (`Item.Begins.unique`).

`Item.Documented` says that the documentation of an item is the block of comments above this token,
if it is the first one of its line and no other comment stands on the line above the block.  Here this
is shown of fields and members, `ItemDocs` goes on with declarations and files.

## Strategy

Readers remember comments that they have passed (`Noted`), and this is a motion like being onward, so
it needs no reader to be opened.  Behind a member they stand behind a token that can end a construct
(`Behind`), which is neither a line end nor a comment nor a comma; that is all that is needed of the
place between two members (`AtMember`).
-/

namespace GoSchema.Go

open Cursor (isTrivia commentsOf)

/-! ## Items and where they begin -/

/-- Something that can be documented: where its name stands, and its documentation. -/
structure Item where
  isMember : Bool
  pos : Position
  docs : String
deriving Repr, DecidableEq

/-- The documentation of a method or an embedded type. -/
def Member.docs : Member → String
  | .method _ _ _ docs _ | .embedded _ docs _ => docs

/-- The place of the name of a method, or of the first token of an embedded type. -/
def Member.pos : Member → Position
  | .method _ _ _ _ pos | .embedded _ _ pos => pos

/-- The fields or members of a declaration. -/
def Declaration.Kind.items : Declaration.Kind → List Item
  | .record fields => fields.map fun f => ⟨true, f.pos, f.docs⟩
  | .contract members => members.map fun m => ⟨true, m.pos, m.docs⟩
  | .defined _ => []

/-- A declaration and its fields or members. -/
def Declaration.items (d : Declaration) : List Item := ⟨false, d.pos, d.docs⟩ :: d.kind.items

/-- Everything in a file that can be documented, in the order of the text. -/
def File.items (f : File) : List Item := f.declarations.flatMap Declaration.items

/-- In front of the last name of a list of names there is a comma, and in front of that the name
before it. -/
def GoesBack (front start : List Token) : Prop :=
  ∃ name comma trivia, front = start ++ name :: comma :: trivia ∧ comma.is "," ∧
    isTrivia comma = false ∧ ∀ u ∈ trivia, isTrivia u

/-- From the tokens in front of the name of an item to the ones in front of the item.  A field that
shares its line with others begins with the first name of the list, a declaration that does not stand
in a group begins with the word in front of its name. -/
def LedBy (isMember : Bool) (front start : List Token) : Prop :=
  match isMember with
  | true => Relation.ReflTransGen GoesBack front start ∧ ∀ earlier, ¬GoesBack start earlier
  | false =>
    (front = start ∧ ∀ u ∈ front.getLast?, u.is "type" = false) ∨
      ∃ word, front = start ++ [word] ∧ word.is "type"

/-- The item begins with a given token, behind some others. -/
def Item.Begins (i : Item) (tokens start : List Token) (t : Token) : Prop :=
  ∃ rest front name after, tokens = start ++ t :: rest ∧ tokens = front ++ name :: after ∧
    name.pos = i.pos ∧ LedBy i.isMember front start

/-- The documentation of an item that is the first one on its line is the block of comments above it,
if no comment stands on the line above the block. -/
def Item.Documented (i : Item) (text : List Char) (tokens : List Token) : Prop :=
  ∃ start t, i.Begins tokens start t ∧
    ((∀ u ∈ start.getLast?, u.kind = .newline) →
      (∀ line, line + (aloneAbove text tokens t.pos.line).length + 1 = t.pos.line →
        IsClear i.isMember tokens line) →
      i.docs = docsAbove text tokens t.pos.line)

theorem goesBack_concat {front start : List Token} {t : Token} (h : GoesBack (front ++ [t]) start) :
    t.is "," ∧ isTrivia t = false ∧ (∃ name, front = start ++ [name]) ∨
      isTrivia t ∧ GoesBack front start := by
  obtain ⟨name, comma, trivia, heq, hcomma, hsolid, htrivia⟩ := h
  -- the last token is the comma itself, or it is passed over behind the comma
  obtain rfl | ⟨trivia, u, rfl⟩ := List.eq_nil_or_concat trivia
  · have heq : front ++ [t] = start ++ [name] ++ [comma] := by
      rw [heq, List.append_assoc, List.singleton_append]
    obtain ⟨hfront, hlast⟩ := List.append_inj' heq rfl
    cases hlast
    exact .inl ⟨hcomma, hsolid, name, hfront⟩
  · rw [List.concat_eq_append] at htrivia heq
    rw [← List.cons_append, ← List.cons_append, ← List.append_assoc] at heq
    obtain ⟨rfl, hlast⟩ := List.append_inj' heq rfl
    cases hlast
    obtain ⟨htrivia, ht⟩ := List.forall_mem_append.mp htrivia
    exact .inr ⟨ht t (List.mem_singleton_self t), name, comma, trivia, rfl, hcomma, hsolid, htrivia⟩

/-- There is only one name before another one. -/
theorem goesBack_rightUnique : Relator.RightUnique GoesBack := by
  intro front start start' h h'
  induction front using List.reverseRecOn with
  | nil =>
      obtain ⟨name, comma, trivia, heq, -⟩ := h
      exact absurd heq.symm (by simp)
  | append_singleton front t ih =>
      rcases goesBack_concat h with ⟨-, hsolid, name, hfront⟩ | ⟨htrivia, hback⟩
      · rcases goesBack_concat h' with ⟨-, -, name', hfront'⟩ | ⟨htrivia, -⟩
        · exact (List.append_inj' (hfront.symm.trans hfront') rfl).1
        · rw [hsolid] at htrivia
          cases htrivia
      · rcases goesBack_concat h' with ⟨-, hsolid, -⟩ | ⟨-, hback'⟩
        · rw [hsolid] at htrivia
          cases htrivia
        · exact ih hback hback'

theorem LedBy.unique {isMember : Bool} {front start start' : List Token}
    (h : LedBy isMember front start) (h' : LedBy isMember front start') : start = start' := by
  cases isMember with
  | true =>
      obtain ⟨hback, hfirst⟩ := h
      obtain ⟨hback', hfirst'⟩ := h'
      -- one of the two names leads back to the other, and in front of neither the list goes on
      rcases Relation.ReflTransGen.total_of_right_unique goesBack_rightUnique hback hback'
        with hmore | hmore
      · rcases hmore.cases_head with heq | ⟨next, hnext, -⟩
        · exact heq
        · exact absurd hnext (hfirst next)
      · rcases hmore.cases_head with heq | ⟨next, hnext, -⟩
        · exact heq.symm
        · exact absurd hnext (hfirst' next)
  | false =>
      have hnot {word : Token} {earlier : List Token}
          (hlast : ∀ u ∈ (earlier ++ [word]).getLast?, u.is "type" = false)
          (hword : word.is "type") : False := by
        rw [hlast word List.getLast?_concat] at hword
        cases hword
      rcases h with ⟨rfl, hlast⟩ | ⟨word, rfl, hword⟩
      · rcases h' with ⟨heq, -⟩ | ⟨word, rfl, hword⟩
        · exact heq
        · exact (hnot hlast hword).elim
      · rcases h' with ⟨rfl, hlast⟩ | ⟨word', heq, -⟩
        · exact (hnot hlast hword).elim
        · exact (List.append_inj' heq rfl).1

/-- An item begins at one place. -/
theorem Item.Begins.unique {text : List Char} {tokens start start' : List Token} {t t' : Token}
    {i : Item} (h : LaidOut text tokens) (hi : i.Begins tokens start t)
    (hi' : i.Begins tokens start' t') : start = start' ∧ t = t' := by
  obtain ⟨rest, front, name, after, hstart, hfront, hpos, hled⟩ := hi
  obtain ⟨rest', front', name', after', hstart', hfront', hpos', hled'⟩ := hi'
  obtain rfl := h.eq_of_pos hfront hfront' (hpos.trans hpos'.symm)
  obtain rfl := hled.unique hled'
  obtain ⟨rfl, -⟩ := List.cons_eq_cons.mp (List.append_cancel_left (hstart.symm.trans hstart'))
  exact ⟨rfl, rfl⟩

theorem Token.not_standsAlone_of_is {t : Token} {word : String} {text : List Char} (h : t.is word) :
    ¬t.StandsAlone text := by
  intro halone
  rw [Token.is, halone.1] at h
  cases h

namespace Cursor

/-! ## What readers remember -/

/-- Among the comments that have been passed are those that are remembered, and the line of the token
before is known. -/
def Noted (tokens : List Token) (c : Cursor) : Prop :=
  ∃ taken, tokens = taken ++ c.rest ∧ c.passed.reverse.Sublist (commentsOf taken) ∧
    ∀ w ∈ taken.getLast?, c.lastLine = w.pos.line

/-- Directly behind a token that can end a construct. -/
def Behind (tokens : List Token) (c : Cursor) : Prop :=
  ∃ taken w, tokens = taken ++ w :: c.rest ∧ c.passed.reverse.Sublist (commentsOf taken) ∧
    c.lastLine = w.pos.line ∧ w.closes

variable {text : List Char} {tokens : List Token} {c d e : Cursor} {t : Token}

theorem Noted.suffix (h : c.Noted tokens) : c.rest <:+ tokens :=
  h.imp fun _ htokens => htokens.1.symm

theorem Behind.noted (h : c.Behind tokens) : c.Noted tokens := by
  obtain ⟨taken, w, htokens, hpassed, hline, -⟩ := h
  refine ⟨taken ++ [w], by rw [htokens, List.append_assoc, List.singleton_append],
    hpassed.trans ?_, fun v hv => ?_⟩
  · rw [commentsOf_append]
    exact List.sublist_append_left _ _
  · rw [List.getLast?_concat] at hv
    cases hv
    exact hline

/-- Taking a token, and remembering it or not. -/
theorem Noted.past {rest : List Token} (h : c.Noted tokens) (hrest : c.rest = t :: rest)
    {passed : List Comment} (hpassed : passed.reverse.Sublist (c.passed.reverse ++ commentsOf [t])) :
    Noted tokens { c.past t rest with passed := passed } := by
  obtain ⟨taken, htokens, hsublist, -⟩ := h
  refine ⟨taken ++ [t], ?_, hpassed.trans ?_, fun w hw => ?_⟩
  · rw [htokens, hrest, List.append_assoc]
    rfl
  · rw [commentsOf_append]
    exact hsublist.append_right _
  · rw [List.getLast?_concat] at hw
    cases hw
    rfl

/-- What readers remember has been passed by them. -/
theorem motion_noted (tokens : List Token) :
    Motion (fun c d => c.Noted tokens → d.Noted tokens)
      (fun c d => c.Noted tokens → d.Behind tokens) where
  refl _ := id
  trans hd he := he ∘ hd
  take hrest _ h := h.past hrest (List.sublist_append_left _ _)
  remember hrest hcomment h := by
    refine h.past hrest ?_
    rw [List.reverse_cons, commentsOf, List.filterMap_cons, if_pos hcomment]
    exact List.Sublist.refl _
  forget c h := by
    obtain ⟨taken, htokens, -, hline⟩ := h
    exact ⟨taken, htokens, List.nil_sublist _, hline⟩
  takes hrest ht h := by
    obtain ⟨taken, htokens, hpassed, -⟩ := h
    exact ⟨taken, _, by rw [htokens, hrest]; rfl, hpassed, rfl, ht⟩
  passes_of_takes h := Behind.noted ∘ h
  takes_of_passes hd he := he ∘ hd

theorem Noted.skipTrivia (hc : c.Noted tokens) : c.skipTrivia.Noted tokens :=
  (motion_noted tokens).skipTrivia c hc

/-! ## Between two members -/

/-- No list of names goes on in front of the cursor. -/
def Unlisted (tokens : List Token) (c : Cursor) : Prop :=
  ∀ taken, tokens = taken ++ c.rest → ∀ earlier, ¬GoesBack taken earlier

theorem Unlisted.of_concat {taken : List Token} (htokens : tokens = taken ++ t :: c.rest)
    (hcomma : t.is "," = false) (h : isTrivia t → ∀ earlier, ¬GoesBack taken earlier) :
    c.Unlisted tokens := by
  intro taken' htokens' earlier hback
  rw [List.append_cons] at htokens
  rw [List.append_cancel_right (htokens'.symm.trans htokens)] at hback
  rcases goesBack_concat hback with ⟨his, -⟩ | ⟨htrivia, hback⟩
  · rw [hcomma] at his
    cases his
  · exact h htrivia earlier hback

/-- Of what is passed between two items only line ends and semicolons are words or signs. -/
theorem is_eq_false_of_isTrivia (h : LaidOut text tokens) (ht : t ∈ tokens) (htrivia : isTrivia t)
    {sign : String} (hsign : sign ∉ ["\n", ";"]) : t.is sign = false := by
  by_contra his
  rw [Bool.not_eq_false] at his
  have htext := Token.text_of_is his
  have hnewline := h.text_of_newline t ht
  refine hsign ?_
  obtain ⟨kind, word, pos⟩ := t
  cases kind with
  | newline =>
      obtain rfl : word = "\n" := hnewline rfl
      simp [← htext]
  | comment => cases his
  | finish => cases htrivia
  | punct =>
      have hword : word = ";" := by simpa [isTrivia] using htrivia
      simp [← htext, hword]
  | ident | number | str => cases htrivia

theorem is_eq_false_of_closes (h : LaidOut text tokens) (ht : t ∈ tokens) (hcloses : t.closes)
    {sign : String} (hsign : sign ∉ Token.closers) (hword : isIdentifier sign = false) :
    t.is sign = false := by
  have hident := h.isIdentifier t ht
  simp only [Token.closes, Bool.or_eq_true, beq_iff_eq] at hcloses
  by_contra his
  rw [Bool.not_eq_false] at his
  rcases hcloses with (hkind | hkind) | hcloser
  · have hword' := hident hkind
    rw [Token.text_of_is his, hword] at hword'
    cases hword'
  · rw [Token.is, hkind] at his
    cases his
  · obtain ⟨closer, hcloser, his'⟩ := List.any_eq_true.mp hcloser
    have heq : closer = sign := (Token.text_of_is his').symm.trans (Token.text_of_is his)
    exact hsign (heq ▸ hcloser)

theorem Unlisted.skipTrivia (h : LaidOut text tokens) (hc : c.Unlisted tokens)
    (hrest : c.rest <:+ tokens) : c.skipTrivia.Unlisted tokens := by
  obtain ⟨trivia, hrest', htrivia, -⟩ := c.exists_trivia
  obtain ⟨taken, htaken⟩ := hrest
  intro front hfront earlier
  have hnot := hc taken htaken.symm earlier
  rw [hrest', ← List.append_assoc] at htaken
  rw [List.append_cancel_right (hfront.symm.trans htaken.symm)]
  have hmem : ∀ u ∈ trivia, u ∈ tokens := fun u hu => by simp [← htaken, hu]
  clear hrest' htaken hfront
  induction trivia using List.reverseRecOn with
  | nil => rwa [List.append_nil]
  | append_singleton trivia u ih =>
      obtain ⟨htrivia, hu⟩ := List.forall_mem_append.mp htrivia
      obtain ⟨hmem, hu'⟩ := List.forall_mem_append.mp hmem
      rw [← List.append_assoc]
      intro hback
      rcases goesBack_concat hback with ⟨his, -⟩ | ⟨-, hback⟩
      · rw [is_eq_false_of_isTrivia h (hu' u (by simp)) (hu u (by simp)) (by decide)] at his
        cases his
      · exact ih htrivia hmem hback

/-- The reader stands in the body of a struct or an interface, between two members. -/
structure AtMember (text : List Char) (tokens : List Token) (c : Cursor) : Prop where
  noted : c.Noted tokens
  trimmed : c.Trimmed text tokens
  unlisted : c.Unlisted tokens

theorem not_standsAlone_of_kind (hkind : t.kind ≠ .comment) : ¬t.StandsAlone text :=
  fun halone => hkind halone.1

theorem kind_of_closes (h : LaidOut text tokens) (ht : t ∈ tokens) (hcloses : t.closes) :
    t.kind ≠ .newline ∧ t.kind ≠ .comment := by
  have htrivia := h.isTrivia_of_closes ht hcloses
  constructor
  all_goals
    intro hkind
    rw [isTrivia, hkind] at htrivia
    cases htrivia

/-- Behind a comment that stands on the line of a token and is not remembered. -/
theorem Noted.atMember_of_comment (h : LaidOut text tokens) (hc : c.Noted tokens)
    {taken : List Token} {w : Token} (htokens : tokens = taken ++ w :: t :: c.rest)
    (hpassed : c.passed.reverse.Sublist (commentsOf taken)) (hnewline : w.kind ≠ .newline)
    (hcomment : t.kind = .comment) (hlist : ∀ earlier, ¬GoesBack (taken ++ [w]) earlier) :
    c.AtMember text tokens := by
  rw [List.append_cons] at htokens
  have hcomma : t.is "," = false := by
    rw [Token.is, hcomment]
  refine ⟨hc, ⟨taken ++ [w], t, htokens, ?_, ?_, ?_, ?_⟩, .of_concat htokens hcomma fun _ => hlist⟩
  · rw [commentsOf_append]
    exact hpassed.trans (List.sublist_append_left _ _)
  · rw [hcomment]
    decide
  · intro halone
    exact hnewline ((h.follows_getLast? htokens List.getLast?_concat).of_standsAlone halone)
  · intro _ _ _ _
    rw [Token.closes, hcomment]
    simp [Token.is, hcomment]

/-- Behind a member and the comment on its line. -/
theorem Behind.atMember (h : LaidOut text tokens) (hc : c.Behind tokens) :
    c.skipTrailingComment.AtMember text tokens := by
  have hnoted := (motion_noted tokens).skipTrailingComment c hc.noted
  obtain ⟨taken, w, htokens, hpassed, hline, hcloses⟩ := hc
  have hw : w ∈ tokens := by simp [htokens]
  obtain ⟨hnewline, hcomment⟩ := kind_of_closes h hw hcloses
  have hcomma : w.is "," = false :=
    is_eq_false_of_closes h hw hcloses (by decide) (by decide)
  have hunlisted : c.Unlisted tokens := by
    refine .of_concat htokens hcomma fun htrivia => ?_
    rw [h.isTrivia_of_closes hw hcloses] at htrivia
    cases htrivia
  have hstay (hhead : ∀ u ∈ c.rest.head?, u.kind = .comment → u.pos.line ≠ w.pos.line) :
      c.Trimmed text tokens :=
    ⟨taken, w, htokens, hpassed, hnewline, not_standsAlone_of_kind hcomment,
      fun u hu hkind heq => absurd heq (hhead u hu hkind)⟩
  revert hnoted
  unfold skipTrailingComment
  split
  · next t rest hrest =>
    split
    · next htrailing =>
      intro hnoted
      rw [hrest] at htokens
      exact hnoted.atMember_of_comment h htokens hpassed hnewline htrailing.1
        (hunlisted (taken ++ [w]) (by rw [htokens, hrest, List.append_cons]))
    · next htrailing =>
      intro hnoted
      refine ⟨hnoted, hstay fun u hu hkind heq => htrailing ?_, hunlisted⟩
      rw [hrest] at hu
      cases hu
      exact ⟨hkind, heq.trans hline.symm⟩
  · next hrest =>
    intro hnoted
    refine ⟨hnoted, hstay fun u hu => ?_, hunlisted⟩
    rw [hrest] at hu
    cases hu

/-- Behind the brace that opens a body. -/
theorem atMember_of_brace (h : LaidOut text tokens) (hc : c.rest <:+ tokens) {d : c.Later}
    (hd : c.expect Token.openBrace = .ok d) : d.1.forget.AtMember text tokens := by
  obtain ⟨taken, htaken⟩ := hc
  unfold expect at hd
  split at hd
  · next heat =>
    cases hd
    obtain ⟨w, hrest, his, hpast⟩ := exists_rest_of_eat? heat
    rw [hrest] at htaken
    have hw : w ∈ tokens := by simp [← htaken]
    have hclosers : Token.closes w = false := by
      by_contra hcloses
      rw [Bool.not_eq_false] at hcloses
      have hno : w.is Token.openBrace = false :=
        is_eq_false_of_closes h hw hcloses (by decide) (by decide)
      rw [his] at hno
      cases hno
    refine ⟨⟨taken ++ [w], ?_, List.nil_sublist _, ?_⟩,
      ⟨taken, w, htaken.symm, List.nil_sublist _, ?_, Token.not_standsAlone_of_is his,
        fun _ _ _ _ => hclosers⟩,
      .of_concat htaken.symm (Token.is_eq_false_of_is his (by decide)) ?_⟩
    · rw [← htaken, List.append_cons]
      rfl
    · intro v hv
      rw [List.getLast?_concat] at hv
      cases hv
      rw [hpast]
      rfl
    · intro hkind
      exact Token.not_isLineEnd_of_is his (by decide) ⟨hkind, h.text_of_newline w hw hkind⟩
    · intro htrivia
      rw [is_eq_false_of_isTrivia h hw htrivia (by decide)] at his
      cases his
  · cases hd

/-- The members that begin with the first token between two members are documented there. -/
theorem AtMember.documented (h : LaidOut text tokens) (hc : c.AtMember text tokens)
    {after mid more : List Token} {name : Token} (hrest : c.skipTrivia.rest = t :: after)
    (hkind : t.kind ≠ .finish) (hname : t :: after = mid ++ name :: more)
    (hback : ∀ start, Relation.ReflTransGen GoesBack (start ++ mid) start) :
    Item.Documented ⟨true, name.pos, c.skipTrivia.docs t.pos.line⟩ text tokens := by
  obtain ⟨before, htokens, hdocs⟩ :=
    docs_skipTrivia true h hc.trimmed.settled (fun _ => hc.trimmed) hrest hkind
  refine ⟨before, t, ⟨after, before ++ mid, name, more, htokens, ?_, rfl, ?_⟩, hdocs⟩
  · rw [htokens, hname, List.append_assoc]
  · exact ⟨hback before,
      hc.unlisted.skipTrivia h hc.noted.suffix before (by rw [hrest, htokens])⟩

/-! ## Fields -/

theorem exists_rest_of_isAtEnd (h : ¬c.isAtEnd) :
    ∃ t after, c.rest = t :: after ∧ t.kind ≠ .finish ∧ c.current = t := by
  cases hrest : c.rest with
  | nil =>
      rw [isAtEnd, current, ahead, hrest] at h
      exact absurd rfl h
  | cons t after =>
      refine ⟨t, after, rfl, fun hkind => h ?_, current_of_rest hrest⟩
      rw [isAtEnd, current_of_rest hrest, hkind]
      rfl

theorem rest_of_expectIdent {d : c.Later} (h : c.expectIdent = .ok (t, d)) :
    c.rest = t :: d.1.rest := by
  unfold expectIdent at h
  split at h
  · next hnext =>
    split at h
    · cases h
      exact rest_eq_of_next? hnext
    · cases h
  · cases h

/-- The names of a list lead back to the first one. -/
theorem goesBack_of_parseNames (hlaid : LaidOut text tokens) (c : Cursor) (hc : c.rest <:+ tokens)
    {names : List Token} {d : c.Later} (h : c.parseNames = .ok (names, d)) :
    ∀ name ∈ names, ∃ mid more, c.rest = mid ++ name :: more ∧
      ∀ start, Relation.ReflTransGen GoesBack (start ++ mid) start := by
  rw [parseNames] at h
  obtain ⟨⟨first, e, he⟩, hfirst, h⟩ := ok_of_bind_iff.mp h
  have hrest := rest_of_expectIdent hfirst
  dsimp only at h
  split at h
  · cases h
    intro name hname
    cases List.mem_singleton.mp hname
    exact ⟨[], _, hrest, fun start => by rw [List.append_nil]⟩
  · next f hf heat =>
    have hf' := later_trans hf he
    have : f.skipTrivia.left < c.left := later_of_within f.left_skipTrivia_le hf'
    obtain ⟨⟨names', g, hg⟩, hnames, h⟩ := ok_of_bind_iff.mp h
    cases h
    obtain ⟨comma, hrest', hcomma, -⟩ := exists_rest_of_eat? heat
    obtain ⟨trivia, htrivia, hall, -⟩ := f.exists_trivia
    have hsolid : isTrivia comma = false := by
      by_contra hcomma'
      rw [Bool.not_eq_false] at hcomma'
      have hmem : comma ∈ tokens := hc.subset (by simp [hrest, hrest'])
      rw [is_eq_false_of_isTrivia hlaid hmem hcomma' (by decide)] at hcomma
      cases hcomma
    have hf'' : f.skipTrivia.rest <:+ tokens := by
      have hce := (motion_onward.halts_expectIdent c).leads _ hfirst
      have hcf := hce.trans (motion_onward.passes_eat? heat (by decide))
      exact List.IsSuffix.trans (hcf.trans (motion_onward.skipTrivia f)) hc
    refine List.forall_mem_cons.mpr ⟨⟨[], _, hrest, fun start => by rw [List.append_nil]⟩, ?_⟩
    intro name hname
    obtain ⟨mid, more, hmid, hback⟩ := goesBack_of_parseNames hlaid f.skipTrivia hf'' hnames name hname
    refine ⟨first :: comma :: (trivia ++ mid), more, ?_, fun start => ?_⟩
    · rw [hrest, hrest', htrivia, hmid, List.cons_append, List.cons_append, List.append_assoc]
    · have hlast := hback (start ++ first :: comma :: trivia)
      rw [List.append_assoc] at hlast
      exact hlast.tail ⟨first, comma, trivia, rfl, hcomma, hsolid, hall⟩
termination_by c.left

theorem goesBack_of_parseFieldLine (hlaid : LaidOut text tokens) (hc : c.rest <:+ tokens)
    {docs : String} {fields : List Field} {d : c.Later} {rest : List Token}
    (hrest : c.rest = t :: rest) (h : c.parseFieldLine docs = .ok (fields, d)) :
    ∀ f ∈ fields, f.docs = docs ∧ ∃ mid name more, c.rest = mid ++ name :: more ∧
      name.pos = f.pos ∧ ∀ start, Relation.ReflTransGen GoesBack (start ++ mid) start := by
  unfold parseFieldLine at h
  split at h
  · obtain ⟨⟨type, e, he⟩, -, h⟩ := ok_of_bind_iff.mp h
    cases h
    intro f hf
    cases List.mem_singleton.mp hf
    refine ⟨rfl, [], t, _, hrest, ?_, fun start => ?_⟩
    · exact (congrArg Token.pos (current_of_rest hrest)).symm
    · rw [List.append_nil]
  · obtain ⟨⟨names, e, he⟩, hnames, h⟩ := ok_of_bind_iff.mp h
    obtain ⟨⟨type, f, hf⟩, -, h⟩ := ok_of_bind_iff.mp h
    cases h
    intro f hf
    obtain ⟨name, hname, rfl⟩ := List.mem_map.mp hf
    obtain ⟨mid, more, hmid, hback⟩ := goesBack_of_parseNames hlaid c hc hnames name hname
    exact ⟨rfl, mid, name, more, hmid, rfl, hback⟩

theorem documented_of_parseFields (h : LaidOut text tokens) (c : Cursor)
    (hc : c.AtMember text tokens) {fields : List Field} {d : c.Later}
    (hparse : c.parseFields = .ok (fields, d)) :
    ∀ f ∈ fields, Item.Documented ⟨true, f.pos, f.docs⟩ text tokens := by
  rw [parseFields] at hparse
  dsimp only at hparse
  split at hparse
  · cases hparse
    exact List.forall_mem_nil _
  · split at hparse
    · cases hparse
    · next hend =>
      obtain ⟨t, after, hrest, hkind, hcurrent⟩ := exists_rest_of_isAtEnd hend
      obtain ⟨⟨fields', e, he⟩, hline, hparse⟩ := ok_of_bind_iff.mp hparse
      have he' := skipTrailingComment_later he
      dsimp only at hparse
      split at hparse
      · cases hparse
      · obtain ⟨⟨more, f, hf⟩, hmore, hparse⟩ := ok_of_bind_iff.mp hparse
        cases hparse
        have hsuffix : c.skipTrivia.rest <:+ tokens := hc.noted.skipTrivia.suffix
        have hbehind : e.Behind tokens :=
          ((motion_noted tokens).halts_parseFieldLine _ _).leads _ hline
            ((motion_noted tokens).passes_item c hc.noted)
        refine List.forall_mem_append.mpr ⟨fun f hf => ?_,
          documented_of_parseFields h _ (hbehind.atMember h) hmore⟩
        obtain ⟨hdocs, mid, name, more, hmid, hpos, hback⟩ :=
          goesBack_of_parseFieldLine (c := c.skipTrivia.forget) h hsuffix hrest hline f hf
        rw [hdocs, ← hpos, hcurrent]
        exact hc.documented h hrest hkind (hrest.symm.trans hmid) hback
termination_by c.left

/-! ## Members of interfaces -/

theorem place_of_parseMember {docs : String} {member : Member} {d : c.Later} {rest : List Token}
    (hrest : c.rest = t :: rest) (h : c.parseMember docs = .ok (some member, d)) :
    member.docs = docs ∧ member.pos = t.pos := by
  unfold parseMember at h
  split at h
  · obtain ⟨⟨name, e, he⟩, hname, h⟩ := ok_of_bind_iff.mp h
    obtain ⟨params, -, h⟩ := ok_of_bind_iff.mp h
    obtain ⟨results, -, h⟩ := ok_of_bind_iff.mp h
    cases h
    obtain ⟨rfl, -⟩ := List.cons_eq_cons.mp (hrest.symm.trans (rest_of_expectIdent hname))
    exact ⟨rfl, rfl⟩
  · split at h
    · obtain ⟨e, -, h⟩ := ok_of_bind_iff.mp h
      cases h
    · obtain ⟨⟨type, e, he⟩, -, h⟩ := ok_of_bind_iff.mp h
      dsimp only at h
      split at h
      · obtain ⟨f, -, h⟩ := ok_of_bind_iff.mp h
        cases h
      · cases h
        exact ⟨rfl, congrArg Token.pos (current_of_rest hrest)⟩

theorem documented_of_parseMembers (h : LaidOut text tokens) (c : Cursor)
    (hc : c.AtMember text tokens) {members : List Member} {d : c.Later}
    (hparse : c.parseMembers = .ok (some members, d)) :
    ∀ m ∈ members, Item.Documented ⟨true, m.pos, m.docs⟩ text tokens := by
  rw [parseMembers] at hparse
  dsimp only at hparse
  split at hparse
  · cases hparse
    exact List.forall_mem_nil _
  · split at hparse
    · cases hparse
    · next hend =>
      obtain ⟨t, after, hrest, hkind, hcurrent⟩ := exists_rest_of_isAtEnd hend
      obtain ⟨⟨member?, e, he⟩, hmember, hparse⟩ := ok_of_bind_iff.mp hparse
      cases member? with
      | none => cases hparse
      | some member =>
          have he' := skipTrailingComment_later he
          dsimp only at hparse
          split at hparse
          · cases hparse
          · obtain ⟨⟨members?, f, hf⟩, hmore, hparse⟩ := ok_of_bind_iff.mp hparse
            cases members? with
            | none => cases hparse
            | some more =>
                cases hparse
                have hbehind : e.Behind tokens :=
                  ((motion_noted tokens).halts_parseMember _ _).leads _ hmember
                    ((motion_noted tokens).passes_item c hc.noted)
                refine List.forall_mem_cons.mpr
                  ⟨?_, documented_of_parseMembers h _ (hbehind.atMember h) hmore⟩
                obtain ⟨hdocs, hpos⟩ :=
                  place_of_parseMember (c := c.skipTrivia.forget) hrest hmember
                rw [hdocs, hpos, hcurrent]
                have hname : t :: after = [] ++ t :: after := rfl
                refine hc.documented h hrest hkind hname fun start => ?_
                rw [List.append_nil]
termination_by c.left

end Cursor

end GoSchema.Go
