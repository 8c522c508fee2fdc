import GoSchema.Text.Quoted
import Mathlib.Data.List.Basic

/-!
# Literals and what they stand for

A reader takes back what the writer wrote (`decode_encode`).  The other way round a text has many
spellings, and `Spelling` lists what each of its pieces may look like between the quotes.  Two things
are true of all spellings.  There is no control code in them; and they are at least as long as the
text, and longer if anything in them is escaped.

So a text that is put between quotes as it is can be read back only if nothing in it had to be
escaped (`plain_of_spelling`).

## Strategy

The danger in the last statement is that a text with a quote or a backslash in it is still read, but
only up to some other quote, before its end or after it.  Before it is too short.  After it is on the
next line, since what follows the text is the end of a statement; and a line end is a control code.
-/

namespace GoSchema.Text.Quoted

/-! ## Spellings -/

/-- A character that stands for itself between quotes. -/
def IsPlain (c : Char) : Prop := c ≠ '"' ∧ c ≠ '\\' ∧ 0x20 ≤ c.toNat

instance (c : Char) : Decidable (IsPlain c) := inferInstanceAs (Decidable (_ ∧ _))

/-- A text that can stand between quotes as it is. -/
def Plain (s : List Char) : Prop := ∀ c ∈ s, IsPlain c

instance (s : List Char) : Decidable (Plain s) := List.decidableBAll IsPlain s

/-- What is between the quotes of a literal, and the pieces that are spelled there. -/
inductive Spelling : List Char → List Piece → Prop
  | nil : Spelling [] []
  | plain {c : Char} {s : List Char} {pieces : List Piece} (h : IsPlain c)
      (rest : Spelling s pieces) : Spelling (c :: s) (.char c :: pieces)
  | letter {e c : Char} {s : List Char} {pieces : List Piece} (h : unescape? e = some c)
      (rest : Spelling s pieces) : Spelling ('\\' :: e :: s) (.char c :: pieces)
  | number {a b c d : Char} {piece : Piece} {s : List Char} {pieces : List Piece}
      (h : Piece.ofDigits? a b c d = some piece) (rest : Spelling s pieces) :
      Spelling ('\\' :: 'u' :: a :: b :: c :: d :: s) (piece :: pieces)

theorem Spelling.readPieces_eq {body : List Char} {pieces : List Piece} (h : Spelling body pieces)
    (rest : List Char) : readPieces (body ++ '"' :: rest) = some (pieces, rest) := by
  induction h with
  | nil => exact readPieces.eq_2 rest
  | @plain c s pieces h _ ih =>
      obtain ⟨hquote, hbackslash, hcontrol⟩ := h
      have hread : ¬(c = '\\' ∨ c.toNat < 0x20) :=
        not_or.mpr ⟨hbackslash, Nat.not_lt.mpr hcontrol⟩
      rw [List.cons_append, readPieces.eq_5 c _ hquote (fun _ _ _ _ _ h => absurd h hbackslash)
        (fun _ _ h => absurd h hbackslash), if_neg hread, ih]
      rfl
  | @letter e c s pieces h _ ih =>
      have hletter : e ≠ 'u' := by
        rintro rfl
        cases h
      rw [List.cons_append, List.cons_append,
        readPieces.eq_4 e _ fun _ _ _ _ _ h => absurd h hletter, h, ih]
      rfl
  | number h _ ih =>
      simp only [List.cons_append]
      rw [readPieces.eq_3, h, ih]
      rfl

/-- What is read up to a closing quote is a spelling. -/
theorem exists_spelling_of_readPieces {s rest : List Char} {pieces : List Piece}
    (h : readPieces s = some (pieces, rest)) :
    ∃ body, s = body ++ '"' :: rest ∧ Spelling body pieces := by
  fun_induction readPieces s generalizing pieces rest with
  | case1 => cases h
  | case2 rest' =>
      cases h
      exact ⟨[], rfl, .nil⟩
  | case3 a b c d s ih =>
      obtain ⟨piece, hpiece, h⟩ := Option.bind_eq_some_iff.mp h
      obtain ⟨⟨pieces', rest'⟩, hread, h⟩ := Option.bind_eq_some_iff.mp h
      cases h
      obtain ⟨body, rfl, hbody⟩ := ih hread
      exact ⟨_, rfl, .number hpiece hbody⟩
  | case4 e s hnumber ih =>
      obtain ⟨c, hc, h⟩ := Option.bind_eq_some_iff.mp h
      obtain ⟨⟨pieces', rest'⟩, hread, h⟩ := Option.bind_eq_some_iff.mp h
      cases h
      obtain ⟨body, rfl, hbody⟩ := ih hread
      exact ⟨_, rfl, .letter hc hbody⟩
  | case5 => cases h
  | case6 c s hquote hnumber hletter hread ih =>
      obtain ⟨⟨pieces', rest'⟩, hread', h⟩ := Option.bind_eq_some_iff.mp h
      cases h
      obtain ⟨body, rfl, hbody⟩ := ih hread'
      obtain ⟨hbackslash, hcontrol⟩ := not_or.mp hread
      exact ⟨_, rfl, .plain ⟨hquote, hbackslash, Nat.not_lt.mp hcontrol⟩ hbody⟩

/-- A literal is a spelling between quotes. -/
theorem decode_eq_some_iff {written s : List Char} :
    decode written = some s ↔
      ∃ body pieces, written = '"' :: (body ++ ['"']) ∧ Spelling body pieces ∧
        join pieces = some s := by
  constructor
  · intro h
    unfold decode at h
    split at h
    · next rest =>
      obtain ⟨⟨pieces, left⟩, hread, hleft⟩ := Option.bind_eq_some_iff.mp h
      obtain ⟨body, rfl, hbody⟩ := exists_spelling_of_readPieces hread
      cases left with
      | nil => exact ⟨body, pieces, rfl, hbody, hleft⟩
      | cons c left => cases hleft
    · cases h
  · rintro ⟨body, pieces, rfl, hbody, hjoin⟩
    show (readPieces (body ++ ['"'])).bind _ = some s
    rw [hbody.readPieces_eq]
    exact hjoin

/-! ## Reading what was written -/

theorem hexValue?_hexDigit {n : Nat} (h : n < 16) : hexValue? (hexDigit n) = some n := by
  have hdigits : ∀ n : Fin 16, hexValue? (hexDigit n) = some n.val := by decide
  exact hdigits ⟨n, h⟩

theorem ofDigits?_hexDigit {c : Char} (h : c.toNat < 0x20) :
    Piece.ofDigits? '0' '0' (hexDigit (c.toNat / 16)) (hexDigit (c.toNat % 16)) =
      some (.char c) := by
  have hzero : hexValue? '0' = some 0 := by decide
  have hnumber : ((0 * 16 + 0) * 16 + c.toNat / 16) * 16 + c.toNat % 16 = c.toNat := by omega
  have hscalar : ¬(0xd800 ≤ c.toNat ∧ c.toNat ≤ 0xdfff) := by omega
  simp only [Piece.ofDigits?, hzero, hexValue?_hexDigit (show c.toNat / 16 < 16 by omega),
    hexValue?_hexDigit (show c.toNat % 16 < 16 by omega), Option.bind_eq_bind, Option.bind_some,
    hnumber, if_neg hscalar, Char.ofNat_toNat]
  rfl

/-- A character is spelled the way it is written. -/
theorem Spelling.escape_append (c : Char) {s : List Char} {pieces : List Piece}
    (rest : Spelling s pieces) : Spelling (escape c ++ s) (.char c :: pieces) := by
  unfold escape
  split_ifs with hquote hbackslash hb hf hn hr ht hcontrol
  · exact .letter (by rw [hquote]; rfl) rest
  · exact .letter (by rw [hbackslash]; rfl) rest
  · exact .letter (by rw [hb]; rfl) rest
  · exact .letter (by rw [hf]; rfl) rest
  · exact .letter (by rw [hn]; rfl) rest
  · exact .letter (by rw [hr]; rfl) rest
  · exact .letter (by rw [ht]; rfl) rest
  · exact .number (ofDigits?_hexDigit hcontrol) rest
  · exact .plain ⟨hquote, hbackslash, Nat.not_lt.mp hcontrol⟩ rest

theorem spelling_flatMap_escape (s : List Char) : Spelling (s.flatMap escape) (s.map .char) := by
  induction s with
  | nil => exact .nil
  | cons c s ih => exact .escape_append c ih

theorem join_map_char (s : List Char) : join (s.map .char) = some s := by
  induction s with
  | nil => rfl
  | cons c s ih => rw [List.map_cons, join, ih, Option.map_some]

/-- **What was written is read back.** -/
theorem decode_encode (s : List Char) : decode (encode s) = some s :=
  decode_eq_some_iff.mpr ⟨_, _, rfl, spelling_flatMap_escape s, join_map_char s⟩

theorem escape_of_isPlain {c : Char} (h : IsPlain c) : escape c = [c] := by
  obtain ⟨hquote, hbackslash, hcontrol⟩ := h
  have hne {d : Char} (hd : d.toNat < 0x20) : c ≠ d := by
    rintro rfl
    omega
  rw [escape, if_neg hquote, if_neg hbackslash, if_neg (hne (by decide)), if_neg (hne (by decide)),
    if_neg (hne (by decide)), if_neg (hne (by decide)), if_neg (hne (by decide)),
    if_neg (Nat.not_lt.mpr hcontrol)]

/-- A plain text is written as it is. -/
theorem encode_of_plain {s : List Char} (h : Plain s) :
    encode s = '"' :: (s ++ ['"']) := by
  have hsame : s.flatMap escape = s := by
    induction s with
    | nil => rfl
    | cons c s ih =>
        rw [List.flatMap_cons, escape_of_isPlain (h c List.mem_cons_self),
          ih fun c hc => h c (List.mem_cons_of_mem _ hc)]
        rfl
  rw [encode, hsame]

/-! ## Spellings and their length -/

theorem length_le_of_join {pieces : List Piece} {s : List Char} (h : join pieces = some s) :
    s.length ≤ pieces.length := by
  fun_induction join pieces generalizing s with
  | case1 => simp_all
  | case2 c rest ih =>
      obtain ⟨s', hs, rfl⟩ := Option.map_eq_some_iff.mp h
      exact Nat.succ_le_succ (ih hs)
  | case3 high low rest hpair ih =>
      obtain ⟨s', hs, rfl⟩ := Option.map_eq_some_iff.mp h
      have hlength := ih hs
      simp only [List.length_cons]
      omega
  | case4 => cases h
  | case5 => cases h

theorem le_toNat_of_unescape? {e c : Char} (h : unescape? e = some c) : 0x20 ≤ e.toNat := by
  unfold unescape? at h
  split at h
  all_goals first | decide | cases h

theorem le_toNat_of_hexValue? {c : Char} {n : Nat} (h : hexValue? c = some n) : 0x20 ≤ c.toNat := by
  have hle {d : Char} (hd : 0x20 ≤ d.toNat) (h : d ≤ c) : 0x20 ≤ c.toNat := Nat.le_trans hd h
  unfold hexValue? at h
  split_ifs at h with hdigit hlower hupper
  · exact hle (by decide) hdigit.1
  · exact hle (by decide) hlower.1
  · exact hle (by decide) hupper.1

theorem le_toNat_of_ofDigits? {a b c d : Char} {piece : Piece}
    (h : Piece.ofDigits? a b c d = some piece) {digit : Char} (hdigit : digit ∈ [a, b, c, d]) :
    0x20 ≤ digit.toNat := by
  obtain ⟨na, ha, h⟩ := Option.bind_eq_some_iff.mp h
  obtain ⟨nb, hb, h⟩ := Option.bind_eq_some_iff.mp h
  obtain ⟨nc, hc, h⟩ := Option.bind_eq_some_iff.mp h
  obtain ⟨nd, hd, -⟩ := Option.bind_eq_some_iff.mp h
  simp only [List.mem_cons, List.not_mem_nil, or_false] at hdigit
  rcases hdigit with rfl | rfl | rfl | rfl
  · exact le_toNat_of_hexValue? ha
  · exact le_toNat_of_hexValue? hb
  · exact le_toNat_of_hexValue? hc
  · exact le_toNat_of_hexValue? hd

/-- There is no control code in a spelling. -/
theorem Spelling.le_toNat {body : List Char} {pieces : List Piece} (h : Spelling body pieces) :
    ∀ c ∈ body, 0x20 ≤ c.toNat := by
  induction h with
  | nil => simp
  | plain h _ ih => exact List.forall_mem_cons.mpr ⟨h.2.2, ih⟩
  | letter h _ ih =>
      exact List.forall_mem_cons.mpr ⟨by decide,
        List.forall_mem_cons.mpr ⟨le_toNat_of_unescape? h, ih⟩⟩
  | @number a b c d piece s pieces h _ ih =>
      intro x hx
      have hx : x = '\\' ∨ x = 'u' ∨ x ∈ [a, b, c, d] ∨ x ∈ s := by
        simpa [or_assoc] using hx
      rcases hx with rfl | rfl | hx | hx
      · decide
      · decide
      · exact le_toNat_of_ofDigits? h hx
      · exact ih x hx

theorem Spelling.length_le {body : List Char} {pieces : List Piece} (h : Spelling body pieces) :
    pieces.length ≤ body.length := by
  induction h with
  | nil => exact Nat.le_refl 0
  | plain _ _ ih => exact Nat.succ_le_succ ih
  | letter _ _ ih | number _ _ ih =>
      simp only [List.length_cons]
      omega

/-- A spelling that is not longer than what it spells has nothing escaped in it. -/
theorem Spelling.plain_of_length_le {body : List Char} {pieces : List Piece}
    (h : Spelling body pieces) (hlength : body.length ≤ pieces.length) : Plain body := by
  induction h with
  | nil => exact fun c hc => absurd hc List.not_mem_nil
  | plain h _ ih => exact List.forall_mem_cons.mpr ⟨h, ih (Nat.le_of_succ_le_succ hlength)⟩
  | letter _ rest ih | number _ rest ih =>
      have hrest := rest.length_le
      simp only [List.length_cons] at hlength
      omega

/-! ## Texts between quotes as they are -/

/-- **A text between quotes as it is.**  Where the end of a statement follows, what is read from the
opening quote on is the text only if the text is plain, and then nothing more is read. -/
theorem plain_of_spelling {s body rest tail : List Char} {pieces : List Piece}
    (hbody : Spelling body pieces) (hjoin : join pieces = some s)
    (h : s ++ '"' :: ';' :: '\n' :: tail = body ++ '"' :: rest) :
    Plain s ∧ rest = ';' :: '\n' :: tail := by
  have hlength : s.length ≤ pieces.length := length_le_of_join hjoin
  obtain ⟨more, rfl⟩ : s <+: body := by
    refine List.prefix_of_prefix_length_le ⟨_, h⟩ (List.prefix_append ..) ?_
    exact Nat.le_trans hlength hbody.length_le
  rw [List.append_assoc, List.append_right_inj] at h
  match more with
  | [] =>
      rw [List.append_nil] at hbody
      cases h
      exact ⟨hbody.plain_of_length_le hlength, rfl⟩
  -- the closing quote would be the semicolon or the line end, or come after the line end
  | [_] => cases h
  | [_, _] => cases h
  | _ :: _ :: newline :: _ =>
      have hnewline : newline = '\n' := by
        cases h
        rfl
      have hcontrol := hbody.le_toNat newline (by simp)
      rw [hnewline] at hcontrol
      exact absurd hcontrol (by decide)

end GoSchema.Text.Quoted
