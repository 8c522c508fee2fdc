import GoSchema.Proofs.Go.Tiling
import GoSchema.Proofs.Go.Turns

/-!
# Reading progresses

A file is read from any tokens at all: the last one need not be an end, and ends may stand anywhere
and say anything.  The reader never goes back and never leaves the tokens, every turn of a loop that
is not the last one takes a token, every type has one, and the text of a type that is kept is that
of tokens which are there (`File.ofTokens_progresses`).

So the reader comes to a result or to a token that it refuses, with one exception.  A pointer, and a
type in parentheses, begin with a sign that is passed, and an end is not passed.  If an end says
such a sign, then a type behind it is looked for in the same place, and again, without an end
(`Cursor.Enters`).  No end of a text that was scanned says anything
(`File.cause_ne_endless_of_ofText`).

## Strategy

The loop over the items of a file has a last turn (`Repeats.ends`), so an error is one of an item,
and every reader refuses a token among those it has been given (`Motion.halts_parseItem`).
-/

namespace GoSchema.Go

namespace Cursor

variable {c d : Cursor}

/-! ## Types that are looked for again -/

theorem SeeksBehindEnd.exists_mem (h : c.SeeksBehindEnd) :
    ∃ t ∈ c.rest, t.kind = .finish ∧ (t.text = "*" ∨ t.text = "(") := by
  obtain ⟨hend, hsign⟩ := h
  cases hrest : c.rest with
  | nil =>
      rw [current, ahead, hrest] at hsign
      rcases hsign with hsign | hsign
      · exact absurd (Token.text_of_is hsign) (by decide : "" ≠ "*")
      · exact absurd (Token.text_of_is hsign) (by decide : "" ≠ "(")
  | cons t rest =>
      rw [isAtEnd, current_of_rest hrest, beq_iff_eq] at hend
      rw [current_of_rest hrest] at hsign
      exact ⟨t, List.mem_cons_self, hend, hsign.imp Token.text_of_is Token.text_of_is⟩

/-! ## Readers -/

/-- Where the rest of a file is refused, one of its tokens is. -/
theorem exists_refuses_of_parseRest {file : String} {package? : Option String} {fault : Fault}
    (h : (c.parseRest file package?).value = .error fault) : ∃ d, c.Onward d ∧ d.Refuses fault := by
  obtain ⟨n, complete, ⟨name?, e⟩, hgoes, -, hlast⟩ := (repeats_itemTurn file).ends (package?, c)
  have hce := (repeats_itemTurn file).onward_of_goesOn hgoes
  -- the error comes from the last turn, and there it is one of an item
  rcases hlast with ⟨result, -, hok⟩ | ⟨fault', hturn, herror⟩
  · cases hok.symm.trans h
  · cases herror.symm.trans h
    have hitem : e.parseItem file = .error fault := by
      rw [itemTurn] at hturn
      cases hitem : e.parseItem file with
      | error fault' =>
          rw [hitem] at hturn
          cases hturn
          rfl
      | ok item? =>
          rw [hitem] at hturn
          cases item? <;> cases hturn
    obtain ⟨d, hed, hd⟩ := (motion_onward.halts_parseItem e file).refuses hitem
    exact ⟨d, hce.trans hed, hd⟩

/-! ## Types that are kept as their text -/

section Forms

variable {text : String} {e : c.Later}

end Forms

end Cursor

/-! ## Files -/

namespace File

variable {file : String} {tokens : List Token} {fault : Fault}

theorem refused_of_ofTokens (h : (ofTokens file tokens).value = .error fault) :
    fault = ⟨.missingPackage, .start⟩ ∨
      ∃ c, (Cursor.ofTokens tokens).Onward c ∧ c.Refuses fault := by
  rw [ofTokens, Reading.value_bind] at h
  cases hrest : ((Cursor.ofTokens tokens).parseRest file none).value with
  | error fault' =>
      rw [hrest] at h
      cases h
      exact .inr (Cursor.exists_refuses_of_parseRest hrest)
  | ok r =>
      rw [hrest] at h
      obtain ⟨package?, declarations⟩ := r
      cases package? with
      | none =>
          cases h
          exact .inl rfl
      | some package => cases h

/-- Where no end says that a type begins behind it, reading is never endless. -/
theorem cause_ne_endless (hends : ∀ t ∈ tokens, t.kind = .finish → t.text ≠ "*" ∧ t.text ≠ "(")
    (h : (ofTokens file tokens).value = .error fault) : fault.cause ≠ .endless := by
  intro hcause
  rcases refused_of_ofTokens h with rfl | ⟨c, hc, hrefuses⟩
  · cases hcause
  · obtain ⟨t, ht, hkind, htext⟩ := (hrefuses.endless hcause).exists_mem
    have hmem : t ∈ tokens := hc.subset ht
    obtain ⟨hpointer, hparenthesis⟩ := hends t hmem hkind
    exact htext.elim hpointer hparenthesis

theorem exists_strayText_of_scanFrom {pos : Position} {s : List Char}
    (h : Token.scanFrom pos s = .error fault) : ∃ text, fault.cause = .strayText text := by
  fun_induction Token.scanFrom pos s with
  | case1 => cases h
  | case2 pos s l hl hshorter text hnone =>
      rename_i ih
      exact ih h
  | case3 => cases h
  | case4 =>
      cases h
      exact ⟨_, rfl⟩

/-- A text is read to a result or an error. -/
theorem cause_ne_endless_of_ofText {text : String} (h : (ofText file text).value = .error fault) :
    fault.cause ≠ .endless := by
  rw [ofText, Reading.value_bind, Reading.value_liftM] at h
  cases hscan : Token.scan text with
  | error fault' =>
      rw [hscan] at h
      cases h
      obtain ⟨stray, hcause⟩ := exists_strayText_of_scanFrom hscan
      rw [hcause]
      rintro ⟨⟩
  | ok tokens =>
      rw [hscan] at h
      refine cause_ne_endless (fun t ht hkind => ?_) h
      rw [text_of_finish_of_scan hscan t ht hkind]
      decide

end File

end GoSchema.Go
