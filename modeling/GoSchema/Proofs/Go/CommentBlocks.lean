import GoSchema.Proofs.Go.DocText
import GoSchema.Proofs.Go.Steps
import GoSchema.Proofs.Go.TokenLines

/-!
# Blocks of comments

The documentation of an item is meant to be the block of comments directly above it: the lines that
end on the line above the item and hold nothing but a comment each (`aloneAbove`).  A reader does not
look at lines.  It remembers the comments that it passes, and takes those of them that come down to
the line above the item without a gap.

The two agree (`docs_skipTrivia`) where the reader stands between two items (`Settled`) and no other
comment stands on the line above the block.

* A comment of the block has been passed, and remembered, since the last item: the last token taken
  before stands on a line of its own or above the block, because a line of the block has no room for
  it.
* The comments that are remembered stand on different lines, so the block comes first among them, and
  what comes after it is not on the line above.
-/

namespace GoSchema.Go

/-! ## The block above a line -/

/-- A comment that has a given line for itself. -/
def aloneOn? (text : List Char) (tokens : List Token) (line : Nat) : Option Token :=
  tokens.find? fun t => decide (t.pos.line = line ∧ t.StandsAlone text)

/-- The comments of the lines directly above a given one that hold a comment each and nothing else,
the lowest line first. -/
def aloneAbove (text : List Char) (tokens : List Token) : Nat → List Comment
  | 0 => []
  | line + 1 =>
    match aloneOn? text tokens line with
    | some t => ⟨line, t.text⟩ :: aloneAbove text tokens line
    | none => []

/-- What the comments directly above a line say, but for those that instruct tools. -/
def docsAbove (text : List Char) (tokens : List Token) (line : Nat) : String :=
  let lines := ((aloneAbove text tokens line).reverse.map Comment.content).filter
    fun line => !Comment.isDirective line
  String.ofList (['\n'].intercalate lines)

section AloneAbove

variable {text : List Char} {tokens : List Token} {line : Nat}

theorem aloneOn?_eq_some {t : Token} (h : aloneOn? text tokens line = some t) :
    t ∈ tokens ∧ t.pos.line = line ∧ t.StandsAlone text :=
  ⟨List.mem_of_find?_eq_some h, by simpa using List.find?_some h⟩

theorem exists_of_mem_aloneAbove {x : Comment} (h : x ∈ aloneAbove text tokens line) :
    x.line < line ∧ ∃ t ∈ tokens, t.StandsAlone text ∧ x = ⟨t.pos.line, t.text⟩ := by
  induction line with
  | zero => cases h
  | succ line ih =>
      rw [aloneAbove] at h
      split at h
      · next t ht =>
        obtain ⟨hmem, hline, halone⟩ := aloneOn?_eq_some ht
        rcases List.mem_cons.mp h with rfl | h
        · exact ⟨Nat.lt_succ_self line, t, hmem, halone, by rw [hline]⟩
        · obtain ⟨hlt, hx⟩ := ih h
          exact ⟨Nat.lt_succ_of_lt hlt, hx⟩
      · cases h

/-- There is no gap in the block. -/
theorem exists_alone_of_lt {below : Nat} (hlow : line ≤ below + (aloneAbove text tokens line).length)
    (hlt : below < line) : ∃ t ∈ tokens, t.pos.line = below ∧ t.StandsAlone text := by
  induction line with
  | zero => omega
  | succ line ih =>
      rw [aloneAbove] at hlow
      split at hlow
      · next t ht =>
        obtain ⟨hmem, hline, halone⟩ := aloneOn?_eq_some ht
        by_cases heq : below = line
        · exact ⟨t, hmem, hline.trans heq.symm, halone⟩
        · rw [List.length_cons] at hlow
          exact ih (by omega) (by omega)
      · rw [List.length_nil] at hlow
        omega

theorem line_le_of_mem_aloneAbove {x : Comment} (h : x ∈ aloneAbove text tokens line) :
    line ≤ x.line + (aloneAbove text tokens line).length := by
  induction line with
  | zero => exact Nat.zero_le _
  | succ line ih =>
      rw [aloneAbove] at h ⊢
      split at h
      · rw [List.length_cons]
        rcases List.mem_cons.mp h with rfl | h
        · dsimp only
          omega
        · have hle := ih h
          omega
      · cases h

/-- Comments that stand on different lines, the latest first: if the block is among them and none is
on the line above it, it is what is taken of them. -/
theorem blockAbove_eq_aloneAbove {passed : List Comment}
    (hsorted : passed.Pairwise fun x y => y.line < x.line) (habove : ∀ x ∈ passed, x.line < line)
    (hblock : ∀ x ∈ aloneAbove text tokens line, x ∈ passed)
    (hstop : ∀ x ∈ passed, x.line + (aloneAbove text tokens line).length + 1 ≠ line) :
    Comment.blockAbove line passed = aloneAbove text tokens line := by
  induction line generalizing passed with
  | zero =>
      cases passed with
      | nil => rfl
      | cons x passed => exact absurd (habove x List.mem_cons_self) (Nat.not_lt_zero _)
  | succ line ih =>
      rw [aloneAbove] at hblock hstop ⊢
      split at hblock
      · next t ht =>
        rw [ht] at hstop
        cases passed with
        | nil => cases hblock _ List.mem_cons_self
        | cons x passed =>
            obtain ⟨hx, hpairs⟩ := List.pairwise_cons.mp hsorted
            have hline := habove x List.mem_cons_self
            -- the lowest comment of the block is the last one passed
            have hfirst : x = ⟨line, t.text⟩ := by
              rcases List.mem_cons.mp (hblock _ List.mem_cons_self) with heq | hmem
              · exact heq.symm
              · have hlt := hx _ hmem
                dsimp only at hlt
                omega
            subst hfirst
            rw [Comment.blockAbove, if_pos rfl, ih hpairs hx]
            · intro y hy
              rcases List.mem_cons.mp (hblock y (List.mem_cons_of_mem _ hy)) with rfl | hmem
              · exact absurd (exists_of_mem_aloneAbove hy).1 (Nat.lt_irrefl _)
              · exact hmem
            · intro y hy
              have hne := hstop y (List.mem_cons_of_mem _ hy)
              rw [List.length_cons] at hne
              omega
      · next hnone =>
        rw [hnone] at hstop
        cases passed with
        | nil => rfl
        | cons x passed => exact if_neg (hstop x List.mem_cons_self)

end AloneAbove

/-! ## Tokens of one line -/

namespace LaidOut

variable {text : List Char} {tokens before after : List Token} {t u v w : Token}

theorem pairwise_before (h : LaidOut text tokens) :
    tokens.Pairwise fun t u => t.pos.Before u.pos :=
  have : Trans (fun t u : Token => t.pos.Before u.pos) (fun t u : Token => t.pos.Before u.pos)
      (fun t u : Token => t.pos.Before u.pos) := ⟨Position.Before.trans⟩
  (h.follows.imp fun _ _ hnext => hnext.before).pairwise

theorem before_of_mem (h : LaidOut text tokens) (htokens : tokens = before ++ t :: after)
    (hu : u ∈ after) : t.pos.Before u.pos := by
  have hpairs := h.pairwise_before
  rw [htokens] at hpairs
  exact (List.pairwise_cons.mp (List.pairwise_append.mp hpairs).2.1).1 u hu

theorem before_of_mem_left (h : LaidOut text tokens) (htokens : tokens = before ++ t :: after)
    (hu : u ∈ before) : u.pos.Before t.pos := by
  have hpairs := h.pairwise_before
  rw [htokens] at hpairs
  exact (List.pairwise_append.mp hpairs).2.2 u hu t List.mem_cons_self

theorem follows_getLast? (h : LaidOut text tokens) (htokens : tokens = before ++ t :: after)
    (hu : u ∈ before.getLast?) : Follows text u t := by
  have hchain := h.follows
  rw [htokens] at hchain
  exact (List.isChain_append.mp hchain).2.2 u hu t rfl

theorem ne_finish (h : LaidOut text tokens) (htokens : tokens = before ++ t :: after)
    (hafter : after ≠ []) : t.kind ≠ .finish := by
  have hchain := h.follows
  rw [htokens] at hchain
  cases after with
  | nil => exact absurd rfl hafter
  | cons u after =>
      exact (List.isChain_cons_cons.mp (List.isChain_append.mp hchain).2.1).1.ne_finish

/-- What is behind a line end is on a line below. -/
theorem line_lt_of_newline (h : LaidOut text tokens) (htokens : tokens = before ++ t :: after)
    (ht : t.kind = .newline) (hu : u ∈ after) : t.pos.line < u.pos.line := by
  cases after with
  | nil => cases hu
  | cons v after =>
      rw [List.append_cons] at htokens
      have hlt := (h.follows_getLast? htokens List.getLast?_concat).of_newline ht
      rcases List.mem_cons.mp hu with rfl | hu
      · exact hlt
      · exact Nat.lt_of_lt_of_le hlt (h.before_of_mem htokens hu).line_le

/-- Behind a comment and the token after it everything is on a line below. -/
theorem line_lt_of_comment_cons (h : LaidOut text tokens)
    (htokens : tokens = before ++ t :: v :: after) (ht : t.kind = .comment) (hu : u ∈ after) :
    t.pos.line < u.pos.line := by
  rw [List.append_cons] at htokens
  obtain ⟨hkind, hline⟩ := (h.follows_getLast? htokens List.getLast?_concat).of_comment ht
  have hnewline : v.kind = .newline :=
    hkind.resolve_right (h.ne_finish htokens (List.ne_nil_of_mem hu))
  rw [← hline]
  exact h.line_lt_of_newline htokens hnewline hu

/-- Behind a comment there is only the end of its line on this line. -/
theorem line_lt_of_comment (h : LaidOut text tokens) (htokens : tokens = before ++ t :: after)
    (hcomment : t.kind = .comment) (hu : u ∈ after) (hnewline : u.kind ≠ .newline)
    (hfinish : u.kind ≠ .finish) : t.pos.line < u.pos.line := by
  cases after with
  | nil => cases hu
  | cons v after =>
      rcases List.mem_cons.mp hu with rfl | hmem
      · rw [List.append_cons] at htokens
        have hnext := h.follows_getLast? htokens List.getLast?_concat
        rcases (hnext.of_comment hcomment).1 with hkind | hkind
        · exact absurd hkind hnewline
        · exact absurd hkind hfinish
      · exact h.line_lt_of_comment_cons htokens hcomment hmem

/-- In front of a comment that stands alone there is nothing on its line. -/
theorem line_lt_of_standsAlone (h : LaidOut text tokens) (htokens : tokens = before ++ t :: after)
    (halone : t.StandsAlone text) (hu : u ∈ before) : u.pos.line < t.pos.line := by
  obtain rfl | ⟨front, v, rfl⟩ := List.eq_nil_or_concat before
  · cases hu
  · rw [List.concat_eq_append] at htokens hu
    have hnext := h.follows_getLast? htokens List.getLast?_concat
    have hlt := hnext.of_newline (hnext.of_standsAlone halone)
    have hle : u.pos.line ≤ v.pos.line := by
      rcases List.mem_append.mp hu with hu | hu
      · rw [List.append_assoc] at htokens
        exact (h.before_of_mem_left htokens hu).line_le
      · rw [List.mem_singleton.mp hu]
    omega

/-- A comment that stands alone is the only token of its line, but for the line end. -/
theorem eq_of_standsAlone (h : LaidOut text tokens) (hv : v ∈ tokens) (halone : v.StandsAlone text)
    (hw : w ∈ tokens) (hline : w.pos.line = v.pos.line) (hnewline : w.kind ≠ .newline)
    (hfinish : w.kind ≠ .finish) : w = v := by
  obtain ⟨before, after, htokens⟩ := List.append_of_mem hv
  rw [htokens] at hw
  rcases List.mem_append.mp hw with hw | hw
  · have hlt := h.line_lt_of_standsAlone htokens halone hw
    omega
  · rcases List.mem_cons.mp hw with hw | hw
    · exact hw
    · have hlt := h.line_lt_of_comment htokens halone.1 hw hnewline hfinish
      omega

end LaidOut

/-! ## Comments passed between two items -/

/-- Comments that stand on a line, if any, do not get in front of an item: they are
directly behind a token that ends a member of a struct or an interface. -/
def IsClear (isMember : Bool) (tokens : List Token) (line : Nat) : Prop :=
  ∀ u ∈ tokens, u.kind = .comment → u.pos.line = line →
    isMember ∧ ∃ v ∈ tokens, v.closes ∧ v.pos.line = line ∧ [v, u] <:+: tokens

instance (isMember : Bool) (tokens : List Token) (line : Nat) :
    Decidable (IsClear isMember tokens line) := by
  unfold IsClear
  infer_instance

namespace LaidOut

variable {text : List Char} {tokens before after : List Token} {t u : Token}

theorem line_lt_of_lineEnd (h : LaidOut text tokens) (htokens : tokens = before ++ t :: after)
    (hfirst : ∀ u ∈ before.getLast?, u.kind = .newline) : ∀ u ∈ before, u.pos.line < t.pos.line := by
  intro u hu
  obtain rfl | ⟨front, v, rfl⟩ := List.eq_nil_or_concat before
  · cases hu
  · rw [List.concat_eq_append] at htokens hu hfirst
    have hlt := (h.follows_getLast? htokens List.getLast?_concat).of_newline
      (hfirst v List.getLast?_concat)
    have hle : u.pos.line ≤ v.pos.line := by
      rcases List.mem_append.mp hu with hu | hu
      · rw [List.append_assoc] at htokens
        exact (h.before_of_mem_left htokens hu).line_le
      · rw [List.mem_singleton.mp hu]
    omega

/-- A token stands at one place. -/
theorem append_inj (h : LaidOut text tokens) {before' after' : List Token}
    (htokens : tokens = before ++ t :: after) (htokens' : tokens = before' ++ t :: after') :
    before = before' ∧ after = after' := by
  have hbefore : t ∉ before := by
    intro hmem
    have hself : t.pos.Before t.pos := h.before_of_mem_left htokens hmem
    unfold Position.Before at hself
    omega
  have hafter : t ∉ after := by
    intro hmem
    have hself : t.pos.Before t.pos := h.before_of_mem htokens hmem
    unfold Position.Before at hself
    omega
  obtain ⟨hfront, -, hback⟩ := (List.append_cons_inj_of_notMem hbefore hafter).mp
    (htokens.symm.trans htokens')
  exact ⟨hfront, hback⟩

/-- Different tokens stand at different places. -/
theorem eq_of_pos (h : LaidOut text tokens) {before' after' : List Token} {t' : Token}
    (htokens : tokens = before ++ t :: after) (htokens' : tokens = before' ++ t' :: after')
    (hpos : t.pos = t'.pos) : before = before' := by
  have hmem : t' ∈ before ++ t :: after := by simp [← htokens, htokens']
  have hirrefl (hself : t.pos.Before t.pos) : False := by
    unfold Position.Before at hself
    omega
  rcases List.mem_append.mp hmem with hmem | hmem
  · have hself := h.before_of_mem_left htokens hmem
    rw [← hpos] at hself
    exact (hirrefl hself).elim
  · rcases List.mem_cons.mp hmem with rfl | hmem
    · exact (h.append_inj htokens htokens').1
    · have hself := h.before_of_mem htokens hmem
      rw [← hpos] at hself
      exact (hirrefl hself).elim

/-- What can end a construct is not passed between two items. -/
theorem isTrivia_of_closes (h : LaidOut text tokens) (ht : t ∈ tokens) (hcloses : t.closes) :
    Cursor.isTrivia t = false := by
  have hnewline := h.text_of_newline t ht
  have hfinish := h.text_of_finish t ht
  obtain ⟨kind, word, pos⟩ := t
  cases kind with
  | newline =>
      obtain rfl : word = "\n" := hnewline rfl
      exact absurd hcloses (by simp [Token.closes, Token.closers, Token.is, Token.closeBrace])
  | finish => exact absurd ⟨rfl, hfinish rfl⟩ (Token.not_isEnd_of_closes hcloses)
  | comment => exact absurd hcloses (by simp [Token.closes, Token.is])
  | punct =>
      rw [Cursor.isTrivia]
      by_contra hsemicolon
      have hword : word = ";" := by simpa using hsemicolon
      subst hword
      exact absurd hcloses (by simp [Token.closes, Token.closers, Token.is, Token.closeBrace])
  | ident | number | str => rfl

end LaidOut

namespace Cursor

/-- The reader stands between two items: the token before is neither a line end nor a comment that
stands alone, and what is remembered are comments that have been passed. -/
inductive Settled (text : List Char) (tokens : List Token) (c : Cursor) : Prop
  | atEnd (h : c.next? = none)
  | first (hrest : c.rest = tokens) (hpassed : c.passed = [])
  | behind {taken : List Token} {w : Token} (htokens : tokens = taken ++ w :: c.rest)
      (hpassed : c.passed.reverse.Sublist (commentsOf (taken ++ [w]))) (hnewline : w.kind ≠ .newline)
      (halone : ¬w.StandsAlone text)

/-- The reader stands behind a member of a struct or an interface, or behind the brace that opens
the body: it has also passed the comment on the line of the token before, without remembering it. -/
def Trimmed (text : List Char) (tokens : List Token) (c : Cursor) : Prop :=
  ∃ taken w, tokens = taken ++ w :: c.rest ∧ c.passed.reverse.Sublist (commentsOf taken) ∧
    w.kind ≠ .newline ∧ ¬w.StandsAlone text ∧
    ∀ u ∈ c.rest.head?, u.kind = .comment → u.pos.line = w.pos.line → w.closes = false

/-- What stands between two items is passed, and its comments are remembered. -/
theorem exists_trivia (c : Cursor) :
    ∃ trivia, c.rest = trivia ++ c.skipTrivia.rest ∧ (∀ u ∈ trivia, isTrivia u) ∧
      c.skipTrivia.passed = (commentsOf trivia).reverse ++ c.passed := by
  fun_induction skipTrivia c with
  | case1 c h => exact ⟨[], rfl, List.forall_mem_nil _, rfl⟩
  | case2 c t rest h _ hcomment ih =>
      obtain ⟨trivia, hrest, htrivia, hpassed⟩ := ih
      refine ⟨t :: trivia, ?_, List.forall_mem_cons.mpr ⟨?_, htrivia⟩, ?_⟩
      · rw [h, List.cons_append, ← hrest]
        rfl
      · simp [isTrivia, hcomment]
      · rw [hpassed]
        simp [commentsOf, hcomment]
  | case3 c t rest h _ hcomment hend ih =>
      obtain ⟨trivia, hrest, htrivia, hpassed⟩ := ih
      refine ⟨t :: trivia, ?_, List.forall_mem_cons.mpr ⟨?_, htrivia⟩, ?_⟩
      · rw [h, List.cons_append, ← hrest]
        rfl
      · simpa [isTrivia, or_assoc] using Or.inr hend
      · rw [hpassed]
        simp [commentsOf, hcomment, past]
  | case4 c t rest h => exact ⟨[], rfl, List.forall_mem_nil _, rfl⟩

theorem mem_commentsOf_iff {tokens : List Token} {x : Comment} :
    x ∈ commentsOf tokens ↔ ∃ u ∈ tokens, u.kind = .comment ∧ x = ⟨u.pos.line, u.text⟩ := by
  simp only [commentsOf, List.mem_filterMap]
  constructor
  · rintro ⟨u, hu, hx⟩
    split at hx
    · next hkind =>
      cases hx
      exact ⟨u, hu, hkind, rfl⟩
    · cases hx
  · rintro ⟨u, hu, hkind, rfl⟩
    exact ⟨u, hu, if_pos hkind⟩

variable {text : List Char} {tokens : List Token}

/-- Comments in a row stand on different lines. -/
theorem pairwise_commentsOf (h : LaidOut text tokens) {before after : List Token}
    (htokens : tokens = before ++ after) :
    (commentsOf before).Pairwise fun x y => x.line < y.line := by
  induction before using List.reverseRecOn generalizing after with
  | nil => exact .nil
  | append_singleton before u ih =>
      rw [List.append_assoc, List.singleton_append] at htokens
      rw [commentsOf_append, List.pairwise_append]
      refine ⟨ih htokens, ?_, ?_⟩
      · by_cases hcomment : u.kind = .comment <;> simp [commentsOf, hcomment]
      · intro x hx y hy
        obtain ⟨v, hv, hcomment, rfl⟩ := mem_commentsOf_iff.mp hx
        obtain ⟨w, hw, hkind, rfl⟩ := mem_commentsOf_iff.mp hy
        rw [List.mem_singleton.mp hw] at hkind ⊢
        obtain ⟨front, back, rfl⟩ := List.append_of_mem hv
        rw [List.append_assoc, List.cons_append] at htokens
        exact h.line_lt_of_comment htokens hcomment (by simp) (by simp [hkind]) (by simp [hkind])

section Block

variable {c : Cursor} {t w : Token} {isMember : Bool} {taken rest trivia after : List Token}

/-- A token above an item is on no line of the block. -/
theorem line_lt_of_line_lt (h : LaidOut text tokens) (htokens : tokens = taken ++ w :: rest)
    (hrest : rest ≠ []) (hnewline : w.kind ≠ .newline) (halone : ¬w.StandsAlone text) {line : Nat}
    (hline : w.pos.line < line) :
    w.pos.line + (aloneAbove text tokens line).length < line := by
  by_contra hlow
  obtain ⟨v, hv, heq, hv'⟩ := exists_alone_of_lt (Nat.not_lt.mp hlow) hline
  have hw : w ∈ tokens := by simp [htokens]
  have hwv := h.eq_of_standsAlone hv hv' hw heq.symm hnewline (h.ne_finish htokens hrest)
  exact halone (hwv ▸ hv')

/-- The comments above an item. -/
theorem blockAbove_passed (h : LaidOut text tokens) {before : List Token}
    (htokens : tokens = before ++ t :: after) (habove : ∀ u ∈ before, u.pos.line < t.pos.line)
    {passed : List Comment} (hpassed : passed.reverse.Sublist (commentsOf before))
    (hblock : ∀ u ∈ before, u.StandsAlone text →
      t.pos.line ≤ u.pos.line + (aloneAbove text tokens t.pos.line).length →
      ⟨u.pos.line, u.text⟩ ∈ passed)
    (hstop : ∀ x ∈ passed, x.line + (aloneAbove text tokens t.pos.line).length + 1 ≠ t.pos.line) :
    Comment.blockAbove t.pos.line passed = aloneAbove text tokens t.pos.line := by
  refine blockAbove_eq_aloneAbove ?_ ?_ ?_ hstop
  · have hsorted := (pairwise_commentsOf h htokens).sublist hpassed
    rwa [List.pairwise_reverse] at hsorted
  · intro x hx
    obtain ⟨u, hu, -, rfl⟩ := mem_commentsOf_iff.mp (hpassed.subset (List.mem_reverse.mpr hx))
    exact habove u hu
  · intro x hx
    obtain ⟨hlt, u, hu, halone, rfl⟩ := exists_of_mem_aloneAbove hx
    refine hblock u ?_ halone (line_le_of_mem_aloneAbove hx)
    rw [htokens] at hu
    rcases List.mem_append.mp hu with hu | hu
    · exact hu
    · have hle : t.pos.line ≤ u.pos.line := by
        rcases List.mem_cons.mp hu with rfl | hu
        · exact Nat.le_refl _
        · exact (h.before_of_mem htokens hu).line_le
      dsimp only at hlt
      omega

/-- Where an item begins, the comments that are remembered have been passed before it, and those of
the block above it have been passed since the last item. -/
theorem Settled.exists_front (h : LaidOut text tokens) (hc : c.Settled text tokens)
    (hrest : c.rest = trivia ++ t :: after) (htrivia : ∀ u ∈ trivia, isTrivia u)
    (hkind : t.kind ≠ .finish) :
    ∃ before, tokens = before ++ t :: after ∧
      (c.passed.reverse ++ commentsOf trivia).Sublist (commentsOf before) ∧
      ((∀ u ∈ before, u.pos.line < t.pos.line) → ∀ u ∈ before, u.StandsAlone text →
        t.pos.line ≤ u.pos.line + (aloneAbove text tokens t.pos.line).length → u ∈ trivia) := by
  cases hc with
  | atEnd hnone =>
      obtain ⟨u, more, hu, hend⟩ : ∃ u more, c.rest = u :: more ∧ u.kind ≠ .finish := by
        cases trivia with
        | nil => exact ⟨t, after, hrest, hkind⟩
        | cons u trivia =>
            refine ⟨u, _, hrest, fun hfinish => ?_⟩
            have hu := htrivia u List.mem_cons_self
            rw [isTrivia, hfinish] at hu
            cases hu
      obtain ⟨hleft, hnext⟩ := next?_of_rest hu hend
      rw [hnone] at hnext
      cases hnext
  | first htokens hnil =>
      refine ⟨trivia, htokens.symm.trans hrest, ?_, fun _ u hu _ _ => hu⟩
      rw [hnil]
      exact List.Sublist.refl _
  | @behind taken w htokens hearlier hnewline halone =>
      rw [hrest] at htokens
      refine ⟨taken ++ w :: trivia, ?_, ?_, ?_⟩
      · rw [htokens, List.append_assoc, List.cons_append]
      · rw [List.append_cons, commentsOf_append]
        exact hearlier.append_right _
      · intro habove u hu halone' hlow
        have hw := line_lt_of_line_lt h htokens (by simp) hnewline halone (habove w (by simp))
        have hle (hu : u ∈ taken) : u.pos.line ≤ w.pos.line :=
          (h.before_of_mem_left htokens hu).line_le
        rcases List.mem_append.mp hu with hu | hu
        · have hle := hle hu
          omega
        · rcases List.mem_cons.mp hu with rfl | hu
          · omega
          · exact hu

theorem Trimmed.settled (hc : c.Trimmed text tokens) : c.Settled text tokens := by
  obtain ⟨taken, w, htokens, hpassed, hnewline, halone, -⟩ := hc
  refine .behind htokens (hpassed.trans ?_) hnewline halone
  rw [commentsOf_append]
  exact List.sublist_append_left _ _

/-- A comment between two items is not the one that stands behind a member on its line: the token
directly before such a comment ends a member. -/
theorem not_isClear_of_mem_trivia (h : LaidOut text tokens)
    (htokens : tokens = taken ++ w :: (trivia ++ t :: after)) (htrivia : ∀ u ∈ trivia, isTrivia u)
    (hhead : ∀ u ∈ trivia.head?, u.kind = .comment → u.pos.line = w.pos.line → w.closes = false)
    {u : Token} (hu : u ∈ trivia) (hcomment : u.kind = .comment) :
    ¬IsClear true tokens u.pos.line := by
  intro hclear
  obtain ⟨front, back, rfl⟩ := List.append_of_mem hu
  have hsplit : tokens = taken ++ w :: front ++ u :: (back ++ t :: after) := by
    rw [htokens]
    simp
  obtain ⟨-, v, hv, hcloses, hvline, first, last, hinfix⟩ :=
    hclear u (by simp [hsplit]) hcomment rfl
  have hinfix : tokens = first ++ [v] ++ u :: last := by
    rw [← hinfix]
    simp
  have hbefore := (h.append_inj hsplit hinfix).1
  obtain rfl | ⟨front, y, rfl⟩ := List.eq_nil_or_concat front
  · obtain ⟨-, heq⟩ := List.append_inj' hbefore rfl
    cases heq
    have hopen := hhead u rfl hcomment hvline.symm
    rw [hcloses] at hopen
    cases hopen
  · rw [List.concat_eq_append] at hbefore htrivia
    rw [← List.cons_append, ← List.append_assoc] at hbefore
    obtain ⟨-, heq⟩ := List.append_inj' hbefore rfl
    cases heq
    have htrivial := htrivia v (by simp)
    rw [h.isTrivia_of_closes hv hcloses] at htrivial
    cases htrivial

/-- A comment further above is not on the line above the block: the last token in front of the gap
stands below it, and above the block. -/
theorem line_ne_of_mem_taken (h : LaidOut text tokens) (htokens : tokens = taken ++ w :: rest)
    (hrest : rest ≠ []) (hnewline : w.kind ≠ .newline) (halone : ¬w.StandsAlone text) {line : Nat}
    (hline : w.pos.line < line) {u : Token} (hu : u ∈ taken) (hcomment : u.kind = .comment) :
    u.pos.line + (aloneAbove text tokens line).length + 1 ≠ line := by
  have hw := line_lt_of_line_lt h htokens hrest hnewline halone hline
  obtain ⟨front, back, rfl⟩ := List.append_of_mem hu
  have hsplit : tokens = front ++ u :: (back ++ w :: rest) := by
    rw [htokens]
    simp
  have huw := h.line_lt_of_comment hsplit hcomment (by simp) hnewline (h.ne_finish htokens hrest)
  omega

/-- Behind a member of a struct or an interface, no comment that is remembered stands on the line
above the block, if the one on the line of the member is the only one there. -/
theorem Trimmed.line_ne (h : LaidOut text tokens) (hc : c.Trimmed text tokens)
    (hrest : c.rest = trivia ++ t :: after)
    (htrivia : ∀ u ∈ trivia, isTrivia u) {before : List Token}
    (htokens : tokens = before ++ t :: after) (habove : ∀ u ∈ before, u.pos.line < t.pos.line)
    (hclear : ∀ line, line + (aloneAbove text tokens t.pos.line).length + 1 = t.pos.line →
      IsClear true tokens line) :
    ∀ x ∈ (commentsOf trivia).reverse ++ c.passed,
      x.line + (aloneAbove text tokens t.pos.line).length + 1 ≠ t.pos.line := by
  obtain ⟨taken, w, htaken, hpassed, hnewline, halone, hhead⟩ := hc
  rw [hrest] at htaken hhead
  intro x hx
  rcases List.mem_append.mp hx with hx | hx
  · obtain ⟨u, hu, hcomment, rfl⟩ := mem_commentsOf_iff.mp (List.mem_reverse.mp hx)
    have hhead' : ∀ u ∈ trivia.head?, u.kind = .comment → u.pos.line = w.pos.line →
        w.closes = false := by
      intro u hu
      refine hhead u ?_
      rw [List.head?_append, hu]
      rfl
    exact fun hline =>
      not_isClear_of_mem_trivia h htaken htrivia hhead' hu hcomment (hclear _ hline)
  · obtain ⟨u, hu, hcomment, rfl⟩ := mem_commentsOf_iff.mp (hpassed.subset (List.mem_reverse.mpr hx))
    have hw : w ∈ before := by
      have hsplit : before ++ t :: after = (taken ++ w :: trivia) ++ t :: after := by
        rw [← htokens, htaken, List.append_assoc, List.cons_append]
      rw [List.append_cancel_right hsplit]
      simp
    exact line_ne_of_mem_taken h htaken (by simp) hnewline halone (habove w hw) hu hcomment

/-- In front of an item that is the first one on its line, the comments that are remembered and come
down to it are those of the block above it. -/
theorem docs_skipTrivia (isMember : Bool) (h : LaidOut text tokens) (hc : c.Settled text tokens)
    (hmember : isMember → c.Trimmed text tokens) (hrest : c.skipTrivia.rest = t :: after)
    (hkind : t.kind ≠ .finish) :
    ∃ before, tokens = before ++ t :: after ∧
      ((∀ u ∈ before.getLast?, u.kind = .newline) →
        (∀ line, line + (aloneAbove text tokens t.pos.line).length + 1 = t.pos.line →
          IsClear isMember tokens line) →
        c.skipTrivia.docs t.pos.line = docsAbove text tokens t.pos.line) := by
  obtain ⟨trivia, hc_rest, htrivia, hpassed⟩ := c.exists_trivia
  rw [hrest] at hc_rest
  obtain ⟨before, htokens, hsublist, hblock⟩ := hc.exists_front h hc_rest htrivia hkind
  refine ⟨before, htokens, fun hfirst hclear => ?_⟩
  have habove := h.line_lt_of_lineEnd htokens hfirst
  have hsublist' : c.skipTrivia.passed.reverse.Sublist (commentsOf before) := by
    rwa [hpassed, List.reverse_append, List.reverse_reverse]
  have heq : Comment.blockAbove t.pos.line c.skipTrivia.passed =
      aloneAbove text tokens t.pos.line := by
    refine blockAbove_passed h htokens habove hsublist' ?_ ?_
    · intro u hu halone hlow
      rw [hpassed]
      refine List.mem_append_left _ (List.mem_reverse.mpr (mem_commentsOf_iff.mpr ?_))
      exact ⟨u, hblock habove u hu halone hlow, halone.1, rfl⟩
    · cases isMember with
      | true =>
          rw [hpassed]
          exact (hmember rfl).line_ne h hc_rest htrivia htokens habove hclear
      | false =>
          intro x hx hline
          obtain ⟨u, hu, hcomment, rfl⟩ :=
            mem_commentsOf_iff.mp (hsublist'.subset (List.mem_reverse.mpr hx))
          have hu : u ∈ tokens := by simp [htokens, hu]
          exact absurd (hclear _ hline u hu hcomment rfl).1 Bool.false_ne_true
  rw [docs, Comment.docs, heq]
  rfl

end Block

end Cursor
end GoSchema.Go
