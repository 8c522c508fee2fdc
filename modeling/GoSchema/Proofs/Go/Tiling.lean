import GoSchema.Proofs.Go.Forms
import Mathlib.Logic.Relation

/-!
# Tokens tile their text

Scanning loses nothing.  The texts of the tokens, with gaps between them that hold only blanks and
block comments, are the text itself, and each token says where in the text it stands.  `Tiles` is
this of a text up to a place, and `scan_tiles` says that scanning gets to the end of the text, or to
the first place where no form of lexemes fits and which is then the place of the fault.

## Strategy

A tiling up to a place is continued by whatever stands there (`tiles_scanFrom`, along the recursion
of scanning).  That no earlier place is one where nothing fits needs more: the lexeme at a place is
found by a function, so all tilings of a text come by the same places (`eq_of_tiles_of_stuck`).
-/

namespace GoSchema.Go

open Lexeme

/-! ## Places -/

/-- The place after a text: its line counts the line ends before it, its column the characters since
the last of them. -/
def Position.behind (before : List Char) : Position :=
  ⟨1 + before.count '\n', 1 + (before.reverse.takeWhile (· != '\n')).length⟩

theorem Position.behind_concat (before : List Char) (c : Char) :
    behind (before ++ [c]) = (behind before).next c := by
  by_cases hc : c = '\n'
  · simp [behind, next, hc, Nat.add_assoc]
  · simp [behind, next, hc, Nat.add_comm]

theorem Position.after_behind (before s : List Char) :
    (behind before).after s = behind (before ++ s) := by
  induction s generalizing before with
  | nil => rw [List.append_nil]; rfl
  | cons c s ih =>
      rw [after, List.foldl_cons, ← behind_concat, ← after, ih, List.append_assoc]
      rfl

/-! ## Gaps -/

/-- A text of blanks and complete block comments. -/
inductive IsGap : List Char → Prop
  | nil : IsGap []
  | blank {c : Char} {s : List Char} (h : isBlank c) (rest : IsGap s) : IsGap (c :: s)
  | comment {body s : List Char} (h : BlockBody body) (rest : IsGap s) :
      IsGap ('/' :: '*' :: (body ++ '*' :: '/' :: s))

theorem isGap_of_isBlank {s : List Char} (h : ∀ c ∈ s, isBlank c) : IsGap s := by
  induction s with
  | nil => exact .nil
  | cons c s ih =>
      obtain ⟨hc, hs⟩ := List.forall_mem_cons.mp h
      exact .blank hc (ih hs)

/-- What makes no token is a gap. -/
theorem isGap_of_form {s : List Char} (h : Form none s) : IsGap s := by
  cases h with
  | blockComment hbody => exact .comment hbody .nil
  | blanks _ hblank => exact isGap_of_isBlank hblank

theorem kind_ne_finish_of_form {kind : Token.Kind} {s : List Char} (h : Form (some kind) s) :
    kind ≠ .finish := by
  cases h with
  | @number c rest hstart hrest => split <;> decide
  | _ => decide

/-! ## Tilings -/

/-- Up to a place a text is tiled by tokens and gaps.  `before` is what they spell together, `rest`
the text from that place on.  Every tile is the lexeme that is found at its place, and a token tells
where it stands. -/
inductive Tiles (text : List Char) : List Token → (before rest : List Char) → Prop
  | start : Tiles text [] [] text
  | gap {tokens : List Token} {before s rest : List Char} (h : Tiles text tokens before (s ++ rest))
      (hgap : IsGap s) (hfound : Stands none s rest) : Tiles text tokens (before ++ s) rest
  | token {tokens : List Token} {before rest : List Char} {t : Token}
      (h : Tiles text tokens before (t.text.toList ++ rest))
      (hfound : Stands (some t.kind) t.text.toList rest) (hpos : t.pos = .behind before) :
      Tiles text (tokens ++ [t]) (before ++ t.text.toList) rest

theorem Tiles.text_eq {text before rest : List Char} {tokens : List Token}
    (h : Tiles text tokens before rest) : text = before ++ rest := by
  induction h with
  | start => rfl
  | gap _ _ _ ih | token _ _ _ ih => rw [ih, List.append_assoc]

/-! ## All tilings come by the same places -/

/-- A lexeme takes the beginning of a text and leaves another one. -/
def Cuts (s rest : List Char) : Prop := ∃ kind? taken, s = taken ++ rest ∧ Stands kind? taken rest

theorem cuts_rightUnique : Relator.RightUnique Cuts := by
  rintro s rest rest' ⟨kind?, taken, rfl, hfound⟩ ⟨kind?', taken', htext, hfound'⟩
  rw [Stands, ← htext, hfound] at hfound'
  have hlength : taken.length = taken'.length := congrArg Lexeme.size (Option.some.inj hfound')
  exact (List.append_inj htext hlength).2

theorem Tiles.reaches {text before rest : List Char} {tokens : List Token}
    (h : Tiles text tokens before rest) : Relation.ReflTransGen Cuts text rest := by
  induction h with
  | start => exact .refl
  | gap _ _ hfound ih | token _ hfound _ ih => exact ih.tail ⟨_, _, rfl, hfound⟩

theorem not_cuts_of_stuck {s rest : List Char} (h : ¬FormFits s) : ¬Cuts s rest := by
  rintro ⟨kind?, taken, rfl, hfound⟩
  rw [Stands, atStart?_eq_none_iff.mpr h] at hfound
  cases hfound

/-- There is only one place of a text where a tiling cannot go on. -/
theorem eq_of_tiles_of_stuck {text before before' rest rest' : List Char}
    {tokens tokens' : List Token} (h : Tiles text tokens before rest)
    (h' : Tiles text tokens' before' rest') (hstuck : ¬FormFits rest) (hstuck' : ¬FormFits rest') :
    before = before' := by
  have hrest : rest = rest' := by
    rcases Relation.ReflTransGen.total_of_right_unique cuts_rightUnique h.reaches h'.reaches
      with hreach | hreach
    · rcases hreach.cases_head with heq | ⟨next, hcuts, -⟩
      · exact heq
      · exact absurd hcuts (not_cuts_of_stuck hstuck)
    · rcases hreach.cases_head with heq | ⟨next, hcuts, -⟩
      · exact heq.symm
      · exact absurd hcuts (not_cuts_of_stuck hstuck')
  have htext : before ++ rest = before' ++ rest := by
    rw [← h.text_eq, h'.text_eq, hrest]
  exact List.append_cancel_right htext

/-! ## Scanning -/

namespace Token

variable {taken rest : List Char} (pos : Position)

theorem scanFrom_nil : scanFrom pos [] = .ok [.atEnd pos] := by
  rw [scanFrom]
  rfl

theorem scanFrom_of_stuck (hne : rest ≠ []) (hstuck : ¬FormFits rest) :
    scanFrom pos rest = .error ⟨.strayText (String.ofList (stray rest)), pos⟩ := by
  have hnone := atStart?_eq_none_iff.mpr hstuck
  rw [scanFrom]
  split
  · next hsome =>
    rw [hnone] at hsome
    cases hsome
  · cases rest with
    | nil => exact absurd rfl hne
    | cons c rest => rfl

theorem scanFrom_of_gap (h : Stands none taken rest) :
    scanFrom pos (taken ++ rest) = scanFrom (pos.after taken) rest := by
  rw [scanFrom]
  split
  · next l hl =>
    rw [Stands, hl] at h
    cases h
    dsimp only
    rw [List.take_left, List.drop_left]
    cases scanFrom (pos.after taken) rest <;> rfl
  · next hnone =>
    rw [Stands, hnone] at h
    cases h

theorem scanFrom_of_token {kind : Kind} (h : Stands (some kind) taken rest) :
    scanFrom pos (taken ++ rest) =
      (scanFrom (pos.after taken) rest).map (⟨kind, String.ofList taken, pos⟩ :: ·) := by
  rw [scanFrom]
  split
  · next l hl =>
    rw [Stands, hl] at h
    cases h
    dsimp only
    rw [List.take_left, List.drop_left]
    cases scanFrom (pos.after taken) rest <;> rfl
  · next hnone =>
    rw [Stands, hnone] at h
    cases h

end Token

/-- What scanning comes to, given the tokens before the place where it begins. -/
inductive Outcome (text : List Char) (earlier : List Token) : Except Fault (List Token) → Prop
  | tokens {tokens : List Token} (hkind : ∀ t ∈ tokens, t.kind ≠ .finish)
      (h : Tiles text (earlier ++ tokens) text []) :
      Outcome text earlier (.ok (tokens ++ [.atEnd (.behind text)]))
  | fault {tokens : List Token} {before rest : List Char} {fault : Fault}
      (h : Tiles text (earlier ++ tokens) before rest) (hne : rest ≠ []) (hstuck : ¬FormFits rest)
      (hpos : fault.pos = .behind before) : Outcome text earlier (.error fault)

theorem Outcome.cons {text : List Char} {earlier : List Token} {t : Token}
    {result : Except Fault (List Token)} (h : Outcome text (earlier ++ [t]) result)
    (hkind : t.kind ≠ .finish) : Outcome text earlier (result.map (t :: ·)) := by
  cases h with
  | @tokens tokens hkinds h =>
      rw [List.append_assoc, List.singleton_append] at h
      exact .tokens (List.forall_mem_cons.mpr ⟨hkind, hkinds⟩) h
  | @fault tokens before rest fault h hne hstuck hpos =>
      rw [List.append_assoc, List.singleton_append] at h
      exact .fault h hne hstuck hpos

/-- Scanning goes on with a tiling until its end or the place where nothing fits. -/
theorem tiles_scanFrom {text before s : List Char} {earlier : List Token}
    (h : Tiles text earlier before s) :
    Outcome text earlier (Token.scanFrom (.behind before) s) := by
  induction hlength : s.length using Nat.strong_induction_on generalizing s before earlier with
  | _ n ih =>
      subst hlength
      cases hfound : atStart? s with
      | none =>
          have hstuck := atStart?_eq_none_iff.mp hfound
          rw [← List.append_nil earlier] at h
          cases s with
          | nil =>
              have hbefore : text = before := by rw [h.text_eq, List.append_nil]
              subst hbefore
              rw [Token.scanFrom_nil]
              exact @Outcome.tokens _ _ [] (List.forall_mem_nil _) h
          | cons c rest =>
              have hne := List.cons_ne_nil c rest
              rw [Token.scanFrom_of_stuck _ hne hstuck]
              exact .fault h hne hstuck rfl
      | some l =>
          obtain ⟨taken, rest, rfl, hshorter, hstands⟩ := exists_stands_of_atStart? hfound
          cases hkind : l.kind? with
          | none =>
              rw [hkind] at hstands
              rw [Token.scanFrom_of_gap _ hstands, Position.after_behind]
              exact ih _ hshorter (.gap h (isGap_of_form hstands.form) hstands) rfl
          | some kind =>
              rw [hkind] at hstands
              rw [Token.scanFrom_of_token _ hstands, Position.after_behind]
              refine Outcome.cons (ih _ hshorter ?_ rfl) (kind_ne_finish_of_form hstands.form)
              obtain ⟨word, rfl⟩ : ∃ word : String, word.toList = taken :=
                ⟨String.ofList taken, String.toList_ofList⟩
              rw [String.ofList_toList]
              exact .token h hstands rfl

/-- **Scanning is lossless, and positions are true.**  Either scanning gives tokens of which the
last one, and no other, is the end of the text; the others tile the whole text, so that their texts
and the gaps between them are the text itself, and each stands where it says it does.  Or it ends
with a fault, whose place is behind a beginning of the text that is tiled in the same way; no form
fits there, and one does at every earlier place that a tiling comes by. -/
theorem scan_tiles (text : String) :
    (∃ tokens, Token.scan text = .ok (tokens ++ [.atEnd (.behind text.toList)]) ∧
      (∀ t ∈ tokens, t.kind ≠ .finish) ∧ Tiles text.toList tokens text.toList []) ∨
    (∃ fault tokens before rest, Token.scan text = .error fault ∧
      fault.pos = .behind before ∧ Tiles text.toList tokens before rest ∧
      rest ≠ [] ∧ ¬FormFits rest ∧
      ∀ tokens' before' rest', Tiles text.toList tokens' before' rest' →
        before'.length < before.length → FormFits rest') := by
  have hscan : Outcome text.toList [] (Token.scan text) := tiles_scanFrom .start
  cases hresult : Token.scan text with
  | ok tokens =>
      rw [hresult] at hscan
      cases hscan with
      | tokens hkind h => exact .inl ⟨_, rfl, hkind, h⟩
  | error fault =>
      rw [hresult] at hscan
      cases hscan with
      | fault h hne hstuck hpos =>
          refine .inr ⟨fault, _, _, _, rfl, hpos, h, hne, hstuck, ?_⟩
          intro tokens' before' rest' h' hshorter
          by_contra hstuck'
          rw [eq_of_tiles_of_stuck h' h hstuck' hstuck] at hshorter
          exact Nat.lt_irrefl _ hshorter

/-- The end of a text has no text of its own. -/
theorem text_of_finish_of_scan {text : String} {tokens : List Token}
    (h : Token.scan text = .ok tokens) : ∀ t ∈ tokens, t.kind = .finish → t.text = "" := by
  rcases scan_tiles text with ⟨tokens', hscan, hkinds, -⟩ | ⟨fault, _, _, _, hscan, -⟩
  · cases h.symm.trans hscan
    refine List.forall_mem_append.mpr ⟨fun t ht hkind => absurd hkind (hkinds t ht), ?_⟩
    exact List.forall_mem_singleton.mpr fun _ => rfl
  · cases h.symm.trans hscan

end GoSchema.Go
