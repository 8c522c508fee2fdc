import GoSchema.Go.File
import GoSchema.Proofs.Log
import Mathlib.Data.List.Basic

/-!
# Readers move forward

A reader takes tokens from the front, one after the other, and between them it may pass line ends and
comments, look away from a comment or forget those that it has passed.  So whatever holds of these
single steps, and of several of them in a row, holds from the cursor where a reader begins to the one
where it ends.  `Motion` is a relation of this kind, and this file says so for every reader.

The first use is that a cursor which is reached by reading stands among the same tokens, further on
or in the same place: what is left of them is an end of what was there (`Onward`).

## Strategy

A motion has two relations.  `Passes` holds from a cursor to any other one on the way, `Takes` to one
that stands behind a token which can end a construct.  Nearly all readers end behind such a token,
and what they do before does not matter for that.

`Halts` says it of work that may fail: it ends at such a cursor, or it stands before the token that
it refuses.  It passes through the steps of a `do` block (`Halts.bind`), so each reader is followed
line by line, and a loop by induction on the tokens left, as its own recursion goes.
-/

namespace GoSchema.Go

namespace Token

/-- The signs that a construct can end with. -/
def closers : List String := [")", "]", closeBrace]

/-- Whether a construct can end with the token: it is a word, a literal or a closing bracket. -/
def closes (t : Token) : Bool := t.kind == .ident || t.kind == .str || closers.any t.is

variable {t : Token} {text : String}

theorem text_of_is (h : t.is text) : t.text = text := by
  obtain ⟨kind, word, pos⟩ := t
  cases kind with
  | str | comment => cases h
  | ident | number | punct | newline | finish => exact beq_iff_eq.mp h

theorem is_of_isSign (h : t.isSign text) : t.is text := by
  obtain ⟨hkind, htext⟩ := Bool.and_eq_true_iff.mp h
  rw [is, beq_iff_eq.mp hkind]
  exact htext

theorem is_eq_false_of_is {other : String} (h : t.is text) (hne : text ≠ other) :
    t.is other = false := by
  by_contra hother
  rw [Bool.not_eq_false] at hother
  exact hne ((text_of_is h).symm.trans (text_of_is hother))

theorem closes_of_is (h : t.is text) (htext : text ∈ closers) : t.closes := by
  simp only [closes, Bool.or_eq_true]
  exact .inr (List.any_eq_true.mpr ⟨text, htext, h⟩)

theorem closes_of_kind (h : t.kind = .ident ∨ t.kind = .str) : t.closes := by
  rcases h with h | h <;> simp [closes, h]

/-- The end of a text that was scanned.  It has no text of its own, so it is no word and no sign. -/
def IsEnd (t : Token) : Prop := t.kind = .finish ∧ t.text = ""

theorem IsEnd.is_eq_false (h : t.IsEnd) (htext : text ≠ "") : t.is text = false := by
  rw [is, h.1, h.2]
  exact beq_eq_false_iff_ne.mpr htext.symm

theorem not_isEnd_of_is (h : t.is text) (htext : text ≠ "") : ¬t.IsEnd := by
  intro hend
  rw [hend.is_eq_false htext] at h
  cases h

theorem not_isEnd_of_kind (h : t.kind ≠ .finish) : ¬t.IsEnd := fun hend => h hend.1

theorem not_isEnd_of_closes (h : t.closes) : ¬t.IsEnd := by
  intro hend
  simp only [closes, hend.1, Bool.or_eq_true] at h
  rcases h with h | h
  · exact absurd h (by decide)
  · obtain ⟨text, htext, his⟩ := List.any_eq_true.mp h
    have hne := (by decide : ∀ text ∈ closers, text ≠ "") text htext
    exact not_isEnd_of_is his hne hend

end Token

namespace Cursor

/-! ## Taking one token -/

section Tokens

variable {c : Cursor} {t : Token} {text : String}

theorem exists_rest_of_next? {d : c.Later} (h : c.next? = some (t, d)) :
    c.rest = t :: d.1.rest ∧ t.kind ≠ .finish ∧ d.1 = c.past t d.1.rest := by
  unfold next? at h
  split at h
  · cases h
  · next hrest =>
    split at h
    · cases h
    · next hkind =>
      cases h
      exact ⟨hrest, hkind, rfl⟩

theorem rest_eq_of_next? {d : c.Later} (h : c.next? = some (t, d)) : c.rest = t :: d.1.rest :=
  (exists_rest_of_next? h).1

theorem exists_rest_of_eat? {d : c.Later} (h : c.eat? text = some d) :
    ∃ t, c.rest = t :: d.1.rest ∧ t.is text ∧ d.1 = c.past t d.1.rest := by
  unfold eat? at h
  split at h
  · cases h
  · next t rest hrest =>
    split at h
    · next his =>
      cases h
      exact ⟨t, hrest, his, rfl⟩
    · cases h

theorem current_of_rest {rest : List Token} (h : c.rest = t :: rest) : c.current = t := by
  rw [current, ahead, h]
  rfl

theorem current_of_next? {d : c.Later} (h : c.next? = some (t, d)) : c.current = t :=
  current_of_rest (rest_eq_of_next? h)

/-- A word or sign that comes next is taken. -/
theorem eat?_of_rest {rest : List Token} (h : c.rest = t :: rest) (his : t.is text) :
    ∃ hleft, c.eat? text = some ⟨c.past t rest, hleft⟩ := by
  have hleft : (c.past t rest).left < c.left := by simp [left, past, h]
  refine ⟨hleft, ?_⟩
  unfold eat?
  split
  · next hnil =>
    rw [hnil] at h
    cases h
  · next u more hcons =>
    rw [hcons] at h
    cases h
    exact if_pos his

theorem eat?_eq_none_of_current (h : c.current.is text = false) : c.eat? text = none := by
  cases heat : c.eat? text with
  | none => rfl
  | some d =>
      obtain ⟨t, hrest, his, -⟩ := exists_rest_of_eat? heat
      rw [current_of_rest hrest, his] at h
      cases h

theorem expect_eq_error (h : c.current.is text = false) :
    c.expect text = .error ⟨.expected text c.current.text, c.current.pos⟩ := by
  rw [expect, eat?_eq_none_of_current h]

theorem isAtEnd_iff : c.isAtEnd ↔ c.next? = none := by
  unfold isAtEnd
  cases hrest : c.rest with
  | nil =>
      have hnext : c.next? = none := by
        unfold next?
        split
        · rfl
        · next hcons =>
          rw [hrest] at hcons
          cases hcons
      rw [current, ahead, hrest, hnext]
      exact iff_of_true rfl rfl
  | cons t rest =>
      rw [current_of_rest hrest]
      unfold next?
      split
      · next hnil =>
        rw [hrest] at hnil
        cases hnil
      · next u more hcons =>
        rw [hrest] at hcons
        cases hcons
        split
        · next hkind => simp [hkind]
        · next hkind => simp [hkind]

end Tokens

/-! ## Motions -/

/-- What holds from a cursor to the cursors that readers reach from it. -/
structure Motion (Passes Takes : Cursor → Cursor → Prop) : Prop where
  refl (c : Cursor) : Passes c c
  trans {c d e : Cursor} (hd : Passes c d) (he : Passes d e) : Passes c e
  /-- Taking a token.  The end of a text is not taken, unless it says a word or sign. -/
  take {c : Cursor} {t : Token} {rest : List Token} (h : c.rest = t :: rest) (ht : ¬t.IsEnd) :
    Passes c (c.past t rest)
  /-- Taking a comment that may document what is behind it. -/
  remember {c : Cursor} {t : Token} {rest : List Token} (h : c.rest = t :: rest)
    (ht : t.kind = .comment) :
    Passes c { c.past t rest with passed := ⟨t.pos.line, t.text⟩ :: c.passed }
  forget (c : Cursor) : Passes c c.forget
  /-- Taking a token that can end a construct. -/
  takes {c : Cursor} {t : Token} {rest : List Token} (h : c.rest = t :: rest) (ht : t.closes) :
    Takes c (c.past t rest)
  passes_of_takes {c d : Cursor} (h : Takes c d) : Passes c d
  takes_of_passes {c d e : Cursor} (hd : Passes c d) (he : Takes d e) : Takes c e

/-- The cursor stands still, or behind a token that can end a construct. -/
def Stays (Takes : Cursor → Cursor → Prop) (c d : Cursor) : Prop := d = c ∨ Takes c d

/-- Results that end at a cursor. -/
class Located (α : Type) where
  cursor : α → Cursor

instance {p : Cursor → Prop} : Located { d : Cursor // p d } := ⟨Subtype.val⟩

instance {α β : Type} [Located β] : Located (α × β) := ⟨fun r => Located.cursor r.2⟩

/-- Where the work succeeds, it ends at a cursor that a relation leads to. -/
def Leads {α : Type} [Located α] (c : Cursor) (R : Cursor → Cursor → Prop) (x : Except Fault α) :
    Prop :=
  ∀ a, x = .ok a → R c (Located.cursor a)

section Leads

variable {α β : Type} [Located α] [Located β] {c d : Cursor} {R R' : Cursor → Cursor → Prop}

theorem Leads.ok {a : α} (h : R c (Located.cursor a)) : c.Leads R (.ok a) := by
  intro b hb
  cases hb
  exact h

theorem Leads.error (fault : Fault) : c.Leads R (.error fault : Except Fault α) := nofun

theorem Leads.bind {x : Except Fault α} {f : α → Except Fault β} (hx : d.Leads R x)
    (hf : ∀ a, R d (Located.cursor a) → c.Leads R' (f a)) : c.Leads R' (x >>= f) := by
  cases x with
  | error fault => exact .error fault
  | ok a => exact hf a (hx a rfl)

end Leads

/-- The text ends at the cursor, and the end says that a type begins behind it.  Nothing is behind
it, so a reader of types would stand there for ever. -/
def SeeksBehindEnd (c : Cursor) : Prop := c.isAtEnd ∧ (c.current.is "*" ∨ c.current.is "(")

/-- A fault is found in the token at the cursor. -/
structure Refuses (c : Cursor) (fault : Fault) : Prop where
  pos : fault.pos = c.current.pos
  endless (h : fault.cause = .endless) : c.SeeksBehindEnd

theorem refuses_unexpected (c : Cursor) : c.Refuses c.unexpected := by
  unfold unexpected
  split <;> exact ⟨rfl, nofun⟩

theorem refuses_endless {c : Cursor} {text : String} (his : c.current.is text)
    (htext : text = "*" ∨ text = "(") (hnext : c.next? = none) : c.Refuses c.endless := by
  refine ⟨rfl, fun _ => ⟨isAtEnd_iff.mpr hnext, ?_⟩⟩
  rcases htext with rfl | rfl
  · exact .inl his
  · exact .inr his

/-- Work ends at a cursor that a relation leads to, or it fails before a token that it refuses. -/
structure Halts {α : Type} [Located α] (c : Cursor) (Passes R : Cursor → Cursor → Prop)
    (x : Except Fault α) : Prop where
  leads : c.Leads R x
  refuses {fault : Fault} (h : x = .error fault) : ∃ d, Passes c d ∧ d.Refuses fault

section Halts

variable {α β : Type} [Located α] [Located β] {c d : Cursor} {Passes R R' : Cursor → Cursor → Prop}

theorem Halts.ok {a : α} (h : R c (Located.cursor a)) : c.Halts Passes R (.ok a) :=
  ⟨.ok h, nofun⟩

theorem Halts.error {fault : Fault} (hd : Passes c d) (h : d.Refuses fault) :
    c.Halts Passes R (.error fault : Except Fault α) := by
  refine ⟨.error fault, ?_⟩
  rintro _ ⟨⟩
  exact ⟨d, hd, h⟩

theorem Halts.bind {x : Except Fault α} {f : α → Except Fault β} (hx : c.Halts Passes R x)
    (hf : ∀ a, R c (Located.cursor a) → c.Halts Passes R' (f a)) :
    c.Halts Passes R' (x >>= f) := by
  cases x with
  | error fault =>
      obtain ⟨d, hd, h⟩ := hx.refuses rfl
      exact .error hd h
  | ok a => exact hf a (hx.leads a rfl)

end Halts

namespace Motion

variable {Passes Takes : Cursor → Cursor → Prop} (m : Motion Passes Takes)
include m

theorem from_passes {α : Type} [Located α] {c d : Cursor} {x : Except Fault α} (h : Passes c d)
    (hx : d.Halts Passes Passes x) : c.Halts Passes Passes x where
  leads a ha := m.trans h (hx.leads a ha)
  refuses hx' := by
    obtain ⟨e, he, hrefuses⟩ := hx.refuses hx'
    exact ⟨e, m.trans h he, hrefuses⟩

theorem from_takes {α : Type} [Located α] {c d : Cursor} {x : Except Fault α} (h : Passes c d)
    (hx : d.Halts Passes Takes x) : c.Halts Passes Takes x where
  leads a ha := m.takes_of_passes h (hx.leads a ha)
  refuses hx' := by
    obtain ⟨e, he, hrefuses⟩ := hx.refuses hx'
    exact ⟨e, m.trans h he, hrefuses⟩

theorem takes_of_stays {c d e : Cursor} (hd : Takes c d) (he : Stays Takes d e) : Takes c e := by
  rcases he with rfl | he
  · exact hd
  · exact m.takes_of_passes (m.passes_of_takes hd) he

theorem takes_from_stays {α : Type} [Located α] {c d : Cursor} {x : Except Fault α} (h : Takes c d)
    (hx : d.Halts Passes (Stays Takes) x) : c.Halts Passes Takes x where
  leads a ha := m.takes_of_stays h (hx.leads a ha)
  refuses hx' := by
    obtain ⟨e, he, hrefuses⟩ := hx.refuses hx'
    exact ⟨e, m.trans (m.passes_of_takes h) he, hrefuses⟩

/-! ## Tokens -/

section Tokens

variable {c : Cursor} {t : Token} {text : String} {d : c.Later}

theorem next (h : c.next? = some (t, d)) : Passes c d.1 := by
  obtain ⟨hrest, hkind, hpast⟩ := exists_rest_of_next? h
  rw [hpast]
  exact m.take hrest (Token.not_isEnd_of_kind hkind)

theorem takes_next (h : c.next? = some (t, d)) (ht : t.closes) : Takes c d.1 := by
  obtain ⟨hrest, -, hpast⟩ := exists_rest_of_next? h
  rw [hpast]
  exact m.takes hrest ht

theorem passes_advance (c : Cursor) : Passes c c.advance.1 := by
  unfold advance
  split
  · next hnext => exact m.next hnext
  · exact m.refl c

theorem passes_eat? (h : c.eat? text = some d) (htext : text ≠ "") : Passes c d.1 := by
  obtain ⟨t, hrest, his, hpast⟩ := exists_rest_of_eat? h
  rw [hpast]
  exact m.take hrest (Token.not_isEnd_of_is his htext)

theorem takes_eat? (h : c.eat? text = some d) (htext : text ∈ Token.closers) : Takes c d.1 := by
  obtain ⟨t, hrest, his, hpast⟩ := exists_rest_of_eat? h
  rw [hpast]
  exact m.takes hrest (Token.closes_of_is his htext)

theorem passes_eatIf (c : Cursor) (htext : text ≠ "") : Passes c (c.eatIf text).2.1 := by
  unfold eatIf
  split
  · next heat => exact m.passes_eat? heat htext
  · exact m.refl c

end Tokens

theorem skipTrivia (c : Cursor) : Passes c c.skipTrivia := by
  fun_induction Cursor.skipTrivia c with
  | case1 => exact m.refl _
  | case2 c t rest hrest _ hcomment ih => exact m.trans (m.remember hrest hcomment) ih
  | case3 c t rest hrest _ _ hkind ih =>
      refine m.trans (m.take hrest (Token.not_isEnd_of_kind ?_)) ih
      rcases hkind with hkind | ⟨hkind, -⟩ <;> rw [hkind] <;> decide
  | case4 => exact m.refl _

theorem skipTrailingComment (c : Cursor) : Passes c c.skipTrailingComment := by
  unfold Cursor.skipTrailingComment
  split
  · next t rest hrest =>
    split
    · next hcomment =>
      refine m.take hrest (Token.not_isEnd_of_kind ?_)
      rw [hcomment.1]
      decide
    · exact m.refl c
  · exact m.refl c

theorem halts_expect (c : Cursor) {text : String} (htext : text ≠ "") :
    c.Halts Passes Passes (c.expect text) := by
  unfold expect
  split
  · next heat => exact .ok (m.passes_eat? heat htext)
  · exact .error (m.refl c) ⟨rfl, nofun⟩

theorem halts_expect_closer (c : Cursor) {text : String} (htext : text ∈ Token.closers) :
    c.Halts Passes Takes (c.expect text) := by
  unfold expect
  split
  · next heat => exact .ok (m.takes_eat? heat htext)
  · exact .error (m.refl c) ⟨rfl, nofun⟩

theorem halts_expectIdent (c : Cursor) : c.Halts Passes Takes c.expectIdent := by
  unfold expectIdent
  split
  · next t d hnext =>
    split
    · next hkind => exact .ok (m.takes_next hnext (Token.closes_of_kind (.inl hkind)))
    · exact .error (m.refl c) ⟨by rw [current_of_next? hnext], nofun⟩
  · exact .error (m.refl c) ⟨rfl, nofun⟩

theorem halts_skipBalanced (c : Cursor) (opening : String) {closing : String} (depth : Nat)
    (hclosing : closing ∈ Token.closers) :
    c.Halts Passes Takes (c.skipBalanced opening closing depth) := by
  fun_induction skipBalanced c opening closing depth with
  | case1 c => exact .error (m.refl c) (refuses_unexpected c)
  | case2 c depth t d h hnext _ ih | case4 c t d h hnext _ _ depth ih
  | case5 c depth t d h hnext _ _ ih =>
      exact m.from_takes (m.next hnext) (.bind ih fun e he => .ok he)
  | case3 c t d h hnext _ his => exact .ok (m.takes_next hnext (Token.closes_of_is his hclosing))

theorem passes_skipStatement (c : Cursor) (depth : Nat) : Passes c (c.skipStatement depth).1 := by
  fun_induction skipStatement c depth with
  | case1 => exact m.refl _
  | case2 => exact m.refl _
  | case3 c depth t d h hnext _ _ e he hskip ih =>
      rw [hskip] at ih
      exact m.trans (m.next hnext) ih

theorem halts_skipFunction (c : Cursor) (depth : Nat) (before : String) :
    c.Halts Passes Passes (c.skipFunction depth before) := by
  rw [skipFunction]
  split
  · exact .ok (m.refl c)
  · next t d h hnext =>
    split
    · exact .ok (m.refl c)
    · split
      · refine m.from_passes (m.next hnext) ?_
        refine .bind (m.halts_skipBalanced d _ 0 (by decide)) ?_
        rintro ⟨e, he⟩ hde
        have hde := m.passes_of_takes hde
        dsimp only
        split
        · exact .ok hde
        · exact m.from_passes hde (.bind (halts_skipFunction e depth t.text) fun f hf => .ok hf)
      · exact m.from_passes (m.next hnext)
          (.bind (halts_skipFunction d _ t.text) fun e he => .ok he)
termination_by c.left

/-! ## Types -/

theorem halts_arrayLength (c : Cursor) : c.Halts Passes Passes c.arrayLength := by
  fun_induction arrayLength c with
  | case1 => exact .ok (m.refl _)
  | case2 c => exact .error (m.refl c) (refuses_unexpected c)
  | case3 c _ t d h hnext ih =>
      exact m.from_passes (m.next hnext) (.bind ih fun length he => .ok he)

theorem halts_qualifiedName (c : Cursor) : c.Halts Passes Takes c.qualifiedName := by
  unfold qualifiedName
  refine .bind (m.halts_expectIdent c) fun ⟨first, d, hd⟩ hcd => ?_
  dsimp only
  split
  · split
    · next t e he hnext =>
      have hce := m.trans (m.passes_of_takes hcd) (m.next hnext)
      exact m.from_takes hce (.bind (m.halts_expectIdent e) fun second hf => .ok hf)
    · exact .ok hcd
  · exact .ok hcd

set_option linter.unusedSectionVars false in
mutual

theorem halts_parseType (c : Cursor) : c.Halts Passes Takes c.parseType := by
  rw [parseType]
  split
  · next hpointer =>
    split
    · next t d hd hnext =>
      exact m.from_takes (m.next hnext) (.bind (halts_parseType d) fun target he => .ok he)
    · next hnext => exact .error (m.refl c) (refuses_endless hpointer (.inl rfl) hnext)
  · split
    · next hopening =>
      split
      · next t d hd hnext =>
        refine m.from_takes (m.next hnext) (.bind (halts_parseType d) fun ⟨type, e, he⟩ hde => ?_)
        exact m.from_takes (m.passes_of_takes hde)
          (.bind (m.halts_expect_closer e (by decide)) fun f hf => .ok hf)
      · next hnext => exact .error (m.refl c) (refuses_endless hopening (.inr rfl) hnext)
    · have hcd := m.passes_advance c
      rcases hadvance : c.advance with ⟨d, hd⟩
      rw [hadvance] at hcd
      split
      · dsimp only
        split
        · next e he heat =>
          have he := later_trans_within he hd
          exact m.from_takes (m.trans hcd (m.passes_eat? heat (by decide)))
            (.bind (halts_parseType e) fun element hf => .ok hf)
        · refine m.from_takes hcd (.bind (m.halts_arrayLength d) fun ⟨length, e, he⟩ hde => ?_)
          refine m.from_takes hde (.bind (m.halts_expect e (by decide)) fun ⟨f, hf⟩ hef => ?_)
          have hf := later_trans_within hf (Nat.le_trans he hd)
          exact m.from_takes hef (.bind (halts_parseType f) fun element hg => .ok hg)
      · split
        · refine m.from_takes hcd
            (.bind (m.halts_expect d (by decide)) fun ⟨e, he⟩ hde => ?_)
          have he := later_trans_within he hd
          refine m.from_takes hde (.bind (halts_parseType e) fun ⟨key, f, hf⟩ hef => ?_)
          have hf := later_trans hf he
          refine m.from_takes (m.passes_of_takes hef)
            (.bind (m.halts_expect f (by decide)) fun ⟨g, hg⟩ hfg => ?_)
          have hg := later_trans hg hf
          exact m.from_takes hfg (.bind (halts_parseType g) fun value hh => .ok hh)
        · split
          · exact .bind (halts_parseVerbatim c) fun d hd => .ok hd
          · split
            · refine .bind (m.halts_qualifiedName c) fun ⟨name, d, hd⟩ hcd => ?_
              dsimp only
              split
              · have hde := m.passes_advance d
                rcases hadvance : d.advance with ⟨e, he⟩
                rw [hadvance] at hde
                exact m.from_takes (m.trans (m.passes_of_takes hcd) hde)
                  (.bind (m.halts_skipBalanced e _ 0 (by decide)) fun f hf => .ok hf)
              · exact .ok hcd
            · exact .error (m.refl c) ⟨rfl, nofun⟩
termination_by 3 * c.left + 1

theorem halts_parseVerbatim (c : Cursor) : c.Halts Passes Takes c.parseVerbatim := by
  rw [parseVerbatim]
  split
  · next d hd heat =>
    refine m.from_takes (m.passes_eat? heat (by decide))
      (.bind (m.halts_expect d (by decide)) fun ⟨e, he⟩ hde => ?_)
    exact m.from_takes hde (.bind (halts_parseType e) fun type hf => .ok hf)
  · split
    · next d hd heat =>
      have hde := m.passes_eatIf d (by decide : "<-" ≠ "")
      rcases hif : d.eatIf "<-" with ⟨received, e, he⟩
      rw [hif] at hde
      have he := later_of_within he hd
      exact m.from_takes (m.trans (m.passes_eat? heat (by decide)) hde)
        (.bind (halts_parseType e) fun type hf => .ok hf)
    · split
      · next d hd heat =>
        refine m.from_takes (m.passes_eat? heat (by decide)) (.bind (halts_parseParams d) ?_)
        rintro ⟨params, e, he⟩ hde
        have he := later_trans he hd
        exact m.takes_from_stays hde (.bind (halts_parseResults e) fun results hf => .ok hf)
      · split
        · exact .error (m.refl c) ⟨rfl, nofun⟩
        · next t d hd hnext =>
          refine m.from_takes (m.next hnext)
            (.bind (m.halts_expect d (by decide)) fun ⟨e, he⟩ hde => ?_)
          exact m.from_takes hde
            (.bind (m.halts_skipBalanced e _ 0 (by decide)) fun f hf => .ok hf)
termination_by 3 * c.left + 0

theorem halts_parseParams (c : Cursor) : c.Halts Passes Takes c.parseParams := by
  rw [parseParams]
  refine .bind (m.halts_expect c (by decide)) fun ⟨d, hd⟩ hcd => ?_
  refine m.from_takes hcd (.bind (halts_parseEntries d) fun ⟨entries, e, he⟩ hde => ?_)
  dsimp only
  split
  · exact .ok hde
  · exact .error (m.passes_of_takes hde) ⟨rfl, nofun⟩
termination_by 3 * c.left + 0

theorem halts_parseEntries (c : Cursor) : c.Halts Passes Takes c.parseEntries := by
  rw [parseEntries]
  have hskip := c.left_skipTrivia_le
  split
  · next d hd heat => exact .ok (m.takes_of_passes (m.skipTrivia c) (m.takes_eat? heat (by decide)))
  · have hcd := m.trans (m.skipTrivia c) (m.passes_eatIf c.skipTrivia (by decide : "..." ≠ ""))
    rcases hif : c.skipTrivia.eatIf "..." with ⟨variadic, d, hd⟩
    rw [hif] at hcd
    have hd := within_of_skipTrivia hd
    refine m.from_takes hcd (.bind (halts_parseType d) fun ⟨first, e, he⟩ hde => ?_)
    have he := later_trans_within he hd
    -- after an entry there is a comma and more of them, or the closing parenthesis
    have hmore (f : e.Within) {g : Cursor} {hg : g.left < f.1.skipTrivia.left}
        (heat : f.1.skipTrivia.eat? "," = some ⟨g, hg⟩) :
        f.1.Halts Passes Takes g.parseEntries := by
      have hg := later_trans (later_of_skipTrivia hg) (later_of_within f.2 he)
      have hfg := m.trans (m.skipTrivia f.1) (m.passes_eat? heat (by decide))
      exact m.from_takes hfg (halts_parseEntries g)
    have hlast (f : e.Within) : f.1.Halts Passes Takes (f.1.skipTrivia.expect ")") :=
      m.from_takes (m.skipTrivia f.1) (m.halts_expect_closer _ (by decide))
    refine m.from_takes (m.passes_of_takes hde) ?_
    dsimp only
    split
    · refine .bind (.ok (m.refl e)) fun ⟨entry, f⟩ hef => m.from_takes hef ?_
      split
      · next heat => exact .bind (hmore f heat) fun entries hh => .ok hh
      · exact .bind (hlast f) fun g hg => .ok hg
    · split
      · have hef := m.passes_eatIf e (by decide : "..." ≠ "")
        rcases hif' : e.eatIf "..." with ⟨variadic', f, hf⟩
        rw [hif'] at hef
        have hf' := later_of_within hf he
        refine m.from_takes hef (.bind (halts_parseType f) fun ⟨type, g, hg⟩ hfg => ?_)
        refine m.from_takes (m.passes_of_takes hfg) ?_
        refine .bind (.ok (m.refl g)) fun ⟨entry, f⟩ hgf => m.from_takes hgf ?_
        split
        · next heat => exact .bind (hmore f heat) fun entries hh => .ok hh
        · exact .bind (hlast f) fun g hg => .ok hg
      · exact .error (m.refl e) (refuses_unexpected e)
termination_by 3 * c.left + 2

theorem halts_parseResults (c : Cursor) : c.Halts Passes (Stays Takes) c.parseResults := by
  rw [parseResults]
  split
  · exact .bind (halts_parseParams c) fun params hd => .ok (.inr hd)
  · split
    · exact .bind (halts_parseType c) fun type hd => .ok (.inr hd)
    · exact .ok (.inl rfl)
termination_by 3 * c.left + 2

end

/-! ## Structs -/

theorem stays_parseTag (c : Cursor) : Stays Takes c c.parseTag.2.1 := by
  unfold parseTag
  split
  · next hnext =>
    split
    · next hkind => exact .inr (m.takes_next hnext (Token.closes_of_kind (.inr hkind)))
    · exact .inl rfl
  · exact .inl rfl

theorem halts_parseNames (c : Cursor) : c.Halts Passes Takes c.parseNames := by
  rw [parseNames]
  refine .bind (m.halts_expectIdent c) fun ⟨name, d, hd⟩ hcd => ?_
  dsimp only
  split
  · exact .ok hcd
  · next e he heat =>
    have he := later_trans he hd
    have : e.skipTrivia.left < c.left := later_of_within e.left_skipTrivia_le he
    have hde := m.trans (m.passes_eat? heat (by decide)) (m.skipTrivia e)
    exact m.from_takes (m.trans (m.passes_of_takes hcd) hde)
      (.bind (halts_parseNames e.skipTrivia) fun names hf => .ok hf)
termination_by c.left

theorem halts_parseFieldLine (c : Cursor) (docs : String) :
    c.Halts Passes Takes (c.parseFieldLine docs) := by
  unfold parseFieldLine
  split
  · refine .bind (m.halts_parseType c) fun ⟨type, d, hd⟩ hcd => ?_
    exact .ok (m.takes_of_stays hcd (m.stays_parseTag d))
  · refine .bind (m.halts_parseNames c) fun ⟨names, d, hd⟩ hcd => ?_
    refine m.from_takes (m.passes_of_takes hcd)
      (.bind (m.halts_parseType d) fun ⟨type, e, he⟩ hde => ?_)
    exact .ok (m.takes_of_stays hde (m.stays_parseTag e))

/-- From before an item to the place where it begins, without the comments above it. -/
theorem passes_item (c : Cursor) : Passes c c.skipTrivia.forget :=
  m.trans (m.skipTrivia c) (m.forget _)

theorem halts_parseFields (c : Cursor) : c.Halts Passes Takes c.parseFields := by
  rw [parseFields]
  dsimp only
  split
  · next e he heat => exact .ok (m.takes_of_passes (m.skipTrivia c) (m.takes_eat? heat (by decide)))
  · split
    · exact .error (m.skipTrivia c) (refuses_unexpected _)
    · refine m.from_takes (m.passes_item c) (.bind (m.halts_parseFieldLine _ _) ?_)
      rintro ⟨fields, e, he⟩ hde
      have he := skipTrailingComment_later he
      have hde := m.trans (m.passes_of_takes hde) (m.skipTrailingComment e)
      dsimp only
      split
      · exact .error hde (refuses_unexpected _)
      · exact m.from_takes hde (.bind (halts_parseFields _) fun more hf => .ok hf)
termination_by c.left

theorem halts_parseStruct (c : Cursor) : c.Halts Passes Takes c.parseStruct := by
  refine .bind (m.halts_expect c (by decide)) fun ⟨d, hd⟩ hcd => ?_
  exact m.from_takes (m.trans hcd (m.forget d))
    (.bind (m.halts_parseFields d.forget) fun fields he => .ok he)

/-! ## Interfaces -/

theorem halts_parseMember (c : Cursor) (docs : String) :
    c.Halts Passes Takes (c.parseMember docs) := by
  unfold parseMember
  split
  · refine .bind (m.halts_expectIdent c) fun ⟨name, d, hd⟩ hcd => ?_
    refine m.from_takes (m.passes_of_takes hcd)
      (.bind (m.halts_parseParams d) fun ⟨params, e, he⟩ hde => ?_)
    exact m.takes_from_stays hde (.bind (m.halts_parseResults e) fun results hf => .ok hf)
  · split
    · exact .bind (m.halts_skipBalanced c _ 0 (by decide)) fun d hd => .ok hd
    · refine .bind (m.halts_parseType c) fun ⟨type, d, hd⟩ hcd => ?_
      dsimp only
      split
      · exact m.from_takes (m.passes_of_takes hcd)
          (.bind (m.halts_skipBalanced d _ 0 (by decide)) fun e he => .ok he)
      · exact .ok hcd

theorem halts_parseMembers (c : Cursor) : c.Halts Passes Takes c.parseMembers := by
  rw [parseMembers]
  dsimp only
  split
  · next e he heat => exact .ok (m.takes_of_passes (m.skipTrivia c) (m.takes_eat? heat (by decide)))
  · split
    · exact .error (m.skipTrivia c) (refuses_unexpected _)
    · refine m.from_takes (m.passes_item c) (.bind (m.halts_parseMember _ _) ?_)
      rintro ⟨member?, e, he⟩ hde
      have he := skipTrailingComment_later he
      dsimp only
      split
      · exact .ok hde
      · have hde := m.trans (m.passes_of_takes hde) (m.skipTrailingComment e)
        split
        · exact .error hde (refuses_unexpected _)
        · exact m.from_takes hde (.bind (halts_parseMembers _) fun members hf => .ok hf)
termination_by c.left

theorem halts_parseInterface (c : Cursor) : c.Halts Passes Takes c.parseInterface := by
  refine .bind (m.halts_expect c (by decide)) fun ⟨d, hd⟩ hcd => ?_
  exact m.from_takes (m.trans hcd (m.forget d))
    (.bind (m.halts_parseMembers d.forget) fun members he => .ok he)

/-! ## Declarations -/

theorem halts_parseKind (c : Cursor) : c.Halts Passes Takes c.parseKind := by
  unfold parseKind
  split
  · next d hd heat =>
    exact m.from_takes (m.passes_eat? heat (by decide))
      (.bind (m.halts_parseStruct d) fun fields he => .ok he)
  · split
    · next d hd heat =>
      exact m.from_takes (m.passes_eat? heat (by decide))
        (.bind (m.halts_parseInterface d) fun members he => .ok he)
    · exact .bind (m.halts_parseType c) fun type hd => .ok hd

theorem halts_skipDeclaration (c : Cursor) : c.Halts Passes Passes c.skipDeclaration := by
  unfold skipDeclaration
  split
  · next d hd heat =>
    refine m.from_passes (m.passes_eat? heat (by decide)) ?_
    exact .bind (m.halts_skipBalanced d _ 0 (by decide)) fun e he => .ok (m.passes_of_takes he)
  · exact .ok (m.passes_skipStatement c 0)

end Motion

end Cursor

/-! ## Readers that report -/

namespace Reading

variable {α β : Type}

/-- What reading comes to, apart from what it reports. -/
def value (x : Reading α) : Except Fault α := x.run.value

@[simp] theorem value_pure (a : α) : value (pure a) = .ok a := rfl

@[simp] theorem value_throw (fault : Fault) : (throw fault : Reading α).value = .error fault := rfl

@[simp] theorem value_liftM (x : Except Fault α) : (liftM x : Reading α).value = x := rfl

@[simp] theorem value_bind (x : Reading α) (f : α → Reading β) :
    (x >>= f).value = x.value >>= fun a => (f a).value :=
  Logged.value_run_bind x f

theorem value_report_bind (e : Event) (f : Unit → Reading α) :
    (liftM (Logged.report e) >>= f : Reading α).value = (f ()).value := rfl

end Reading

namespace Cursor

/-- A declaration is what its name, and the type behind it, make of it. -/
theorem value_parseDeclaration_eq (c : Cursor) (file docs : String) :
    (c.parseDeclaration file docs).value = (do
      let (name, ⟨d, hd⟩) ← c.expectIdent
      if d.beginsTypeParams then
        let ⟨e, he⟩ := d.advance
        let ⟨f, hf⟩ ← e.skipBalanced "[" "]" 0
        let ⟨g, hg⟩ := f.skipStatement 0
        return (none, ⟨g, later_of_within hg (later_trans (later_trans_within hf he) hd)⟩)
      else
        let (_, ⟨e, he⟩) := d.eatIf "="
        let (kind?, ⟨f, hf⟩) ← e.parseKind
        return (kind?.map fun kind => ⟨name.text, docs, file, name.pos, kind⟩,
          ⟨f, later_trans hf (later_of_within he hd)⟩)) := by
  unfold parseDeclaration
  simp only [Reading.value_bind, Reading.value_liftM]
  refine bind_congr fun ⟨name, d, hd⟩ => ?_
  dsimp only
  split
  · rw [Reading.value_report_bind]
    simp only [Reading.value_bind, Reading.value_liftM, Reading.value_pure]
    rfl
  · simp only [Reading.value_bind, Reading.value_liftM]
    refine bind_congr fun ⟨kind?, f, hf⟩ => ?_
    cases kind? with
    | some kind => rfl
    | none => rfl

namespace Motion

variable {Passes Takes : Cursor → Cursor → Prop} (m : Motion Passes Takes)
include m

theorem halts_parseDeclaration (c : Cursor) (file docs : String) :
    c.Halts Passes Passes (c.parseDeclaration file docs).value := by
  rw [value_parseDeclaration_eq]
  refine .bind (m.halts_expectIdent c) fun ⟨name, d, hd⟩ hcd => ?_
  have hcd := m.passes_of_takes hcd
  dsimp only
  split
  · have hce := m.trans hcd (m.passes_advance d)
    refine m.from_passes hce (.bind (m.halts_skipBalanced _ _ 0 (by decide)) ?_)
    exact fun ⟨f, hf⟩ hef => .ok (m.trans (m.passes_of_takes hef) (m.passes_skipStatement f 0))
  · have hce := m.trans hcd (m.passes_eatIf d (by decide : "=" ≠ ""))
    exact m.from_passes hce (.bind (m.halts_parseKind _) fun kind? hef =>
      .ok (m.passes_of_takes hef))

theorem halts_parseGroup (c : Cursor) (file : String) :
    c.Halts Passes Takes (c.parseGroup file).value := by
  rw [parseGroup]
  dsimp only
  split
  · next e he heat => exact .ok (m.takes_of_passes (m.skipTrivia c) (m.takes_eat? heat (by decide)))
  · split
    · exact .error (m.skipTrivia c) (refuses_unexpected _)
    · simp only [Reading.value_bind]
      refine m.from_takes (m.passes_item c) (.bind (m.halts_parseDeclaration _ file _) ?_)
      rintro ⟨declaration?, e, he⟩ hde
      have he := later_of_skipTrivia he
      exact m.from_takes hde (.bind (halts_parseGroup e file) fun declarations hf => .ok hf)
termination_by c.left

theorem halts_parseTypes (c : Cursor) (file : String) (line : Nat) :
    c.Halts Passes Passes (c.parseTypes file line).value := by
  unfold parseTypes
  split
  · next d hd heat =>
    rw [Reading.value_bind]
    have hcd := m.trans (m.passes_eat? heat (by decide)) (m.forget d)
    exact m.from_passes hcd (.bind (m.halts_parseGroup d.forget file) fun _ he =>
      .ok (m.passes_of_takes he))
  · rw [Reading.value_bind]
    exact m.from_passes (m.forget c) (.bind (m.halts_parseDeclaration c.forget file _)
      fun declaration? hd => .ok hd)

end Motion

/-! ## Cursors among the same tokens -/

/-- The second cursor stands among the tokens of the first one, further on or in the same place. -/
def Onward (c d : Cursor) : Prop := d.rest <:+ c.rest

theorem Onward.trans {c d e : Cursor} (hd : c.Onward d) (he : d.Onward e) : c.Onward e :=
  List.IsSuffix.trans he hd

theorem onward_past {c : Cursor} {t : Token} {rest : List Token} (h : c.rest = t :: rest) :
    c.Onward (c.past t rest) := by
  rw [Onward, h]
  exact List.suffix_cons t rest

/-- Readers never go back, and they leave the tokens as they are. -/
theorem motion_onward : Motion Onward Onward where
  refl _ := List.suffix_rfl
  trans := Onward.trans
  take h _ := onward_past h
  remember h _ := onward_past h
  forget _ := List.suffix_rfl
  takes h _ := onward_past h
  passes_of_takes h := h
  takes_of_passes := Onward.trans

end Cursor

end GoSchema.Go
