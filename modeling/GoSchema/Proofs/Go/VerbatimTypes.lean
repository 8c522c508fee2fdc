import GoSchema.Proofs.Go.CompactText
import GoSchema.Proofs.Go.Steps
import Mathlib.Data.List.Destutter

/-!
# Types that are kept as their text

A struct or an interface that stands where a type is expected is kept as the compact text of its
tokens (`eq_verbatim_of_parseType`).  These tokens are some that scanning made, and the end of the
text is none of them.

What such a type says shows in its outline: its tokens without comments, with the line ends and
semicolons between two of them as one separator, and with no separator next to a brace.
-/

namespace GoSchema.Go

open Lexeme

/-! ## The tokens of a text -/

theorem Tiles.allFormed {text before rest : List Char} {tokens : List Token}
    (h : Tiles text tokens before rest) : AllFormed tokens := by
  induction h with
  | start => exact List.forall_mem_nil _
  | gap _ _ _ ih => exact ih
  | token _ hfound _ ih =>
      exact List.forall_mem_append.mpr ⟨ih, List.forall_mem_singleton.mpr hfound.form⟩

/-- Scanning makes tokens of known forms, and the end. -/
theorem form_of_mem_scan {text : String} {tokens : List Token} (h : Token.scan text = .ok tokens)
    {t : Token} (ht : t ∈ tokens) (hend : ¬t.IsEnd) : Form (some t.kind) t.text.toList := by
  rcases scan_tiles text with ⟨tokens', hscan, -, htiles⟩ | ⟨fault, _, _, _, hscan, -⟩
  · cases h.symm.trans hscan
    rcases List.mem_append.mp ht with ht | ht
    · exact htiles.allFormed t ht
    · rw [List.mem_singleton.mp ht] at hend
      exact absurd ⟨rfl, rfl⟩ hend
  · cases h.symm.trans hscan

namespace Cursor

/-- The second cursor is behind some more tokens, and the end of the text is none of them. -/
def Passes (c d : Cursor) : Prop := ∃ tokens, c.rest = tokens ++ d.rest ∧ ∀ t ∈ tokens, ¬t.IsEnd

section Passes

variable {c d e : Cursor}

theorem Passes.trans (hd : c.Passes d) (he : d.Passes e) : c.Passes e := by
  obtain ⟨tokens, hc, htokens⟩ := hd
  obtain ⟨more, hmore, hmoreEnds⟩ := he
  exact ⟨tokens ++ more, by rw [hc, hmore, List.append_assoc],
    List.forall_mem_append.mpr ⟨htokens, hmoreEnds⟩⟩

theorem passes_token {t : Token} {rest : List Token} (h : c.rest = t :: rest) (ht : ¬t.IsEnd)
    (hd : d.rest = rest) : c.Passes d :=
  ⟨[t], by rw [h, hd]; rfl, List.forall_mem_singleton.mpr ht⟩

/-- Readers never pass the end of the text. -/
theorem motion_passes : Motion Passes Passes where
  refl _ := ⟨[], rfl, List.forall_mem_nil _⟩
  trans := Passes.trans
  take h ht := passes_token h ht rfl
  remember h hkind := passes_token h (Token.not_isEnd_of_kind (by rw [hkind]; decide)) rfl
  forget _ := ⟨[], rfl, List.forall_mem_nil _⟩
  takes h hcloses := passes_token h (Token.not_isEnd_of_closes hcloses) rfl
  passes_of_takes h := h
  takes_of_passes := Passes.trans

end Passes

/-- A struct or an interface is kept as its text. -/
theorem eq_verbatim_of_parseType {c : Cursor} {type : TypeExpr} {d : c.Later}
    (hstart : c.current.is "struct" ∨ c.current.is "interface") (h : c.parseType = .ok (type, d)) :
    type = .verbatim (c.textUpTo d.1) := by
  have hno : ∀ text ∈ ["*", "(", "[", "map"], c.current.is text = false := by
    intro text htext
    have hne : "struct" ≠ text ∧ "interface" ≠ text :=
      (by decide : ∀ text ∈ ["*", "(", "[", "map"], "struct" ≠ text ∧ "interface" ≠ text) text htext
    exact hstart.elim (Token.is_eq_false_of_is · hne.1) (Token.is_eq_false_of_is · hne.2)
  have hverbatim : verbatimStarts.any c.current.is := by
    rcases hstart with hstart | hstart <;> simp [verbatimStarts, hstart]
  rw [parseType_eq, followedBy_eq_other (hno "*" (by decide)),
    followedBy_eq_other (hno "(" (by decide)), followedBy_eq_other (hno "[" (by decide)),
    followedBy_eq_other (hno "map" (by decide)), plainType, if_pos hverbatim] at h
  obtain ⟨e, -, h⟩ := ok_of_bind_iff.mp h
  cases h
  rfl

end Cursor

/-! ## Outlines -/

/-- A separator, for which there is `none`, or what a token is. -/
abbrev OutlineItem := Option (Token.Kind × String)

namespace OutlineItem

/-- The item for what a token is. -/
def ofSpelling (s : Token.Kind × String) : OutlineItem := if s = (.punct, ";") then none else some s

/-- The item for a token; nothing for a comment. -/
def ofToken? (t : Token) : Option OutlineItem :=
  if t.kind = .comment then none
  else if t.kind = .newline then some none
  else some (ofSpelling t.spelling)

/-- Whether an item is a brace. -/
def isBrace (item : OutlineItem) : Bool :=
  item == some (.punct, Token.openBrace) || item == some (.punct, Token.closeBrace)

/-- Makes one separator of several in a row. -/
def mergeSeparators (items : List OutlineItem) : List OutlineItem :=
  items.destutter fun a b => a.isSome ∨ b.isSome

/-- Drops the separators next to a brace; `afterBrace` says that one came before. -/
def dropAtBraces (afterBrace : Bool) : List OutlineItem → List OutlineItem
  | [] => []
  | none :: rest =>
    if afterBrace || rest.head?.any isBrace then dropAtBraces afterBrace rest
    else none :: dropAtBraces false rest
  | some token :: rest => some token :: dropAtBraces (isBrace (some token)) rest

end OutlineItem

/-- What some tokens say: comments are dropped, line ends and semicolons in a row are one separator,
and none is left next to a brace. -/
def outline (tokens : List Token) : List OutlineItem :=
  OutlineItem.dropAtBraces false
    (OutlineItem.mergeSeparators (tokens.filterMap OutlineItem.ofToken?))

/-- Tokens without line ends. -/
def withoutLineEnds (tokens : List Token) : List Token := tokens.filter fun t => t.kind != .newline

/-- The line ends among some tokens separate nothing that is not separated without them. -/
def LineEndsIdle (tokens : List Token) : Prop := outline (withoutLineEnds tokens) = outline tokens

instance (tokens : List Token) : Decidable (LineEndsIdle tokens) :=
  inferInstanceAs (Decidable (_ = _))

theorem filterMap_ofToken?_withoutLineEnds (tokens : List Token) :
    (withoutLineEnds tokens).filterMap OutlineItem.ofToken? =
      ((Token.significant tokens).map Token.spelling).map OutlineItem.ofSpelling := by
  induction tokens with
  | nil => rfl
  | cons t rest ih =>
      obtain ⟨kind, text, pos⟩ := t
      unfold withoutLineEnds Token.significant at ih ⊢
      cases kind <;> simp [Token.isLayout, OutlineItem.ofToken?, Token.spelling, ih]

/-- Without line ends, tokens say the same when they are the same. -/
theorem outline_withoutLineEnds_congr {tokens tokens' : List Token}
    (h : (Token.significant tokens).map Token.spelling =
      (Token.significant tokens').map Token.spelling) :
    outline (withoutLineEnds tokens) = outline (withoutLineEnds tokens') := by
  rw [outline, outline, filterMap_ofToken?_withoutLineEnds, filterMap_ofToken?_withoutLineEnds, h]

end GoSchema.Go
