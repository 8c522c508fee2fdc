import GoSchema.Proofs.Go.Pieces
import Mathlib.Data.List.Chain

/-!
# Compact texts

Some types are kept as their text: the tokens one behind the other, without line ends and comments,
and with a blank between two words.  Is this text enough to know the type by?  It is as far as its
tokens can be told apart in it, that is, as long as none of them takes the beginning of the next one
(`Apart`).  Then scanning the compact text gives the tokens back (`exists_scan_compact`), and
two types with the same text have the same tokens (`significant_eq_of_compact_eq`).

Line ends are not among these tokens, although they separate the members of a struct or an
interface.
-/

namespace GoSchema.Go

open Lexeme

namespace Token

/-- What a token is, wherever it stands. -/
def spelling (t : Token) : Kind × String := (t.kind, t.text)

/-- The tokens that are left without line ends and comments. -/
def significant (tokens : List Token) : List Token := tokens.filter fun t => !t.isLayout

/-- Two tokens are told apart when one directly follows the other: a blank is put between them, or
the first one does not take the beginning of the second. -/
def Apart (t u : Token) : Prop :=
  (t.isWord && u.isWord) = true ∨ ∀ d ∈ u.text.toList.head?, takes t.kind t.text.toList d = false

-- not by way of all characters, which is how a statement on each of them may be decided
instance (t u : Token) : Decidable (t.Apart u) :=
  @instDecidableOr _ _ inferInstance (Option.decidableForallMem _)

/-- No token runs together with the next one, where line ends and comments are left out. -/
def AllApart (tokens : List Token) : Prop := (significant tokens).IsChain Apart

instance (tokens : List Token) : Decidable (AllApart tokens) :=
  inferInstanceAs (Decidable (List.IsChain _ _))

end Token

open Token

/-- The pieces of a compact text. -/
def compactPieces (afterWord : Bool) : List Token → List Piece
  | [] => []
  | t :: rest =>
    (if afterWord && t.isWord then [.blank] else []) ++
      ⟨some t.kind, t.text⟩ :: compactPieces t.isWord rest

variable {tokens tokens' : List Token}

theorem compact_significant (afterWord : Bool) (tokens : List Token) :
    Cursor.compact afterWord (significant tokens) = Cursor.compact afterWord tokens := by
  induction tokens generalizing afterWord with
  | nil => rfl
  | cons t rest ih =>
      cases hlayout : t.isLayout with
      | true => simp [significant, Cursor.compact, hlayout, ← ih]
      | false => simp [significant, Cursor.compact, hlayout, ← ih]

theorem spell_compactPieces (afterWord : Bool) (h : ∀ t ∈ tokens, t.isLayout = false) :
    spell (compactPieces afterWord tokens) = (Cursor.compact afterWord tokens).toList := by
  induction tokens generalizing afterWord with
  | nil => rfl
  | cons t rest ih =>
      obtain ⟨ht, hrest⟩ := List.forall_mem_cons.mp h
      rw [compactPieces, Cursor.compact, ht, spell_append, spell_cons, ih _ hrest]
      cases afterWord && t.isWord <;> simp [Piece.blank]

theorem spelling_tokensOf_compactPieces (afterWord : Bool) (tokens : List Token) (pos : Position) :
    (tokensOf pos (compactPieces afterWord tokens)).map spelling = tokens.map spelling := by
  induction tokens generalizing afterWord pos with
  | nil => rfl
  | cons t rest ih =>
      rw [compactPieces, tokensOf_append, List.map_append, tokensOf, List.map_append, ih]
      cases afterWord && t.isWord <;> rfl

/-! ## Scanning a compact text -/

/-- A word does not take the blank that is put behind it. -/
theorem takes_blank {t : Token} (h : t.isWord) : takes t.kind t.text.toList ' ' = false := by
  have hident : isIdentPart ' ' = false := (marks_apart ' ' (by decide)).1
  obtain ⟨kind, text, pos⟩ := t
  cases kind with
  | ident => exact hident
  | number =>
      unfold takes
      split <;> first | rfl | contradiction
  | _ => cases h

/-- A word does not begin with a blank. -/
theorem beginsSolid_of_isWord {t : Token} (hform : Form (some t.kind) t.text.toList)
    (h : t.isWord) (rest : List Char) : BeginsSolid (t.text.toList ++ rest) := by
  obtain ⟨kind, text, pos⟩ := t
  dsimp only at hform ⊢
  generalize text.toList = s at hform
  intro d hd
  refine Bool.eq_false_iff.mpr fun hblank => ?_
  obtain ⟨hmark, -, -⟩ := mem_marks_of_isBlank hblank
  cases hform with
  | word hstart =>
      cases hd
      rw [isIdentStart_eq_false hmark] at hstart
      cases hstart
  | number hstart =>
      cases hd
      rw [(marks_apart _ hmark).2] at hstart
      cases hstart
  | fraction =>
      cases hd
      cases hblank
  | _ => cases h

/-- Each of these is a token as scanning makes them. -/
def AllFormed (tokens : List Token) : Prop := ∀ t ∈ tokens, Form (some t.kind) t.text.toList

/-- What comes next in a compact text is not taken by the token before it. -/
theorem takes_head_compactPieces {t : Token} (hforms : AllFormed tokens)
    (h : ∀ u ∈ tokens.head?, t.Apart u) :
    ∀ d ∈ (spell (compactPieces t.isWord tokens)).head?, takes t.kind t.text.toList d = false := by
  cases tokens with
  | nil => exact nofun
  | cons u more =>
      rw [compactPieces, spell_append, spell_cons]
      cases hwords : t.isWord && u.isWord with
      | true =>
          rintro d ⟨⟩
          exact takes_blank (Bool.and_eq_true_iff.mp hwords).1
      | false =>
          have happart := (h u rfl).resolve_left (Bool.eq_false_iff.mp hwords)
          obtain ⟨c, s, htext⟩ := (hforms u List.mem_cons_self).exists_cons
          rw [htext] at happart ⊢
          exact happart

/-- The tokens are told apart in their compact text. -/
theorem fits_compactPieces (afterWord : Bool) (hforms : AllFormed tokens)
    (hlayout : ∀ t ∈ tokens, t.isLayout = false) (h : tokens.IsChain Apart) :
    Fits (compactPieces afterWord tokens) [] := by
  induction tokens generalizing afterWord with
  | nil => exact trivial
  | cons t rest ih =>
      obtain ⟨hform, hforms⟩ := List.forall_mem_cons.mp hforms
      obtain ⟨ht, hlayout⟩ := List.forall_mem_cons.mp hlayout
      obtain ⟨hhead, hrest⟩ := List.isChain_cons.mp h
      have hcomment : t.kind ≠ .comment := fun heq => by simp [isLayout, heq] at ht
      have hstands : Stands (some t.kind) t.text.toList
          (spell (compactPieces t.isWord rest) ++ []) := by
        rw [List.append_nil]
        exact hform.stands hcomment (takes_head_compactPieces hforms hhead)
      have hfits : Fits (⟨some t.kind, t.text⟩ :: compactPieces t.isWord rest) [] :=
        ⟨hstands, ih _ hforms hlayout hrest⟩
      rw [compactPieces]
      cases hblank : afterWord && t.isWord with
      | false => exact hfits
      | true =>
          have hsolid := beginsSolid_of_isWord hform (Bool.and_eq_true_iff.mp hblank).2
            (spell (compactPieces t.isWord rest) ++ [])
          have hhead : BeginsSolid (spell (⟨some t.kind, t.text⟩ :: compactPieces t.isWord rest) ++
              []) := by
            rwa [spell_cons, List.append_assoc]
          exact ⟨stands_blank (by decide) hhead, hfits⟩

/-- **A compact text gives its tokens back.**  Scanning it comes to the tokens that it was made of,
apart from line ends and comments and from where they stand, and then the end. -/
theorem exists_scan_compact (hforms : AllFormed tokens) (h : AllApart tokens) :
    ∃ scanned pos, Token.scan (Cursor.compact false tokens) = .ok (scanned ++ [.atEnd pos]) ∧
      scanned.map spelling = (significant tokens).map spelling := by
  have hlayout : ∀ t ∈ significant tokens, t.isLayout = false := fun t ht => by
    simpa using (List.mem_filter.mp ht).2
  have hfits : Fits (compactPieces false (significant tokens)) [] := fits_compactPieces false
    (fun t ht => hforms t (List.mem_of_mem_filter ht)) hlayout h
  have hscan := scan_spell hfits
  rw [spell_compactPieces false hlayout, compact_significant, String.ofList_toList] at hscan
  exact ⟨_, _, hscan, spelling_tokensOf_compactPieces false _ .start⟩

/-- Types with the same compact text have the same tokens. -/
theorem significant_eq_of_compact_eq (hforms : AllFormed tokens) (hforms' : AllFormed tokens')
    (h : AllApart tokens) (h' : AllApart tokens')
    (htext : Cursor.compact false tokens = Cursor.compact false tokens') :
    (significant tokens).map spelling = (significant tokens').map spelling := by
  obtain ⟨scanned, pos, hscan, hspelling⟩ := exists_scan_compact hforms h
  obtain ⟨scanned', pos', hscan', hspelling'⟩ := exists_scan_compact hforms' h'
  rw [htext, hscan'] at hscan
  obtain ⟨rfl, -⟩ := List.append_inj' (Except.ok.inj hscan) rfl
  rw [← hspelling, ← hspelling']

end GoSchema.Go
