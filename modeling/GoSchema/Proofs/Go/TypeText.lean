import GoSchema.Proofs.Go.Pieces
import GoSchema.Proofs.Go.TypeForms

/-!
# Types are read as they are printed

The Go text of a type is put together from words, numbers and signs, and reading these gives the
type back (`reads_parseType`), if what follows is no part of a type: a point or a bracket behind a
name would be taken with it.

## Strategy

`Reads` is reading with its outcome: what is read, and the tokens that are left.  It passes through
the steps of a `do` block (`Reads.bind`), so a reader is followed line by line; the proof for types
is by induction on the type, whatever comes after it.
-/

namespace GoSchema.Go

open Lexeme

/-! ## Printing types -/

namespace TypeExpr

/-- The pieces of the Go text of a type. -/
def pieces : TypeExpr → List Piece
  | named none name => [.word name]
  | named (some package) name => [.word package, .sign ".", .word name]
  | pointer target => .sign "*" :: target.pieces
  | slice element => .sign "[" :: .sign "]" :: element.pieces
  | array length element => .sign "[" :: .number length :: .sign "]" :: element.pieces
  | map key value => .word "map" :: .sign "[" :: (key.pieces ++ .sign "]" :: value.pieces)
  | verbatim text => [.sign text]

/-- A type that is made of names, pointers, slices, arrays of a given length and maps. -/
def isPlain : TypeExpr → Bool
  | named package? name => package?.all isName && isName name
  | pointer target => target.isPlain
  | slice element => element.isPlain
  | array length element => isDecimal length && element.isPlain
  | map key value => key.isPlain && value.isPlain
  | verbatim _ => false

/-- Whether a type is that of an array. -/
def isArray : TypeExpr → Bool
  | array .. => true
  | _ => false

theorem fits_pieces {t : TypeExpr} (h : t.isPlain) {rest : List Char} (hrest : EndsWord rest) :
    Fits t.pieces rest := by
  induction t generalizing rest with
  | named package? name =>
      obtain ⟨hpackage, hname⟩ := Bool.and_eq_true_iff.mp h
      have hname := isIdentifier_of_isName hname
      cases package? with
      | none => exact ⟨stands_word hname hrest, trivial⟩
      | some package =>
          refine ⟨stands_word (isIdentifier_of_isName hpackage) (endsWord_cons (by decide) _), ?_,
            stands_word hname hrest, trivial⟩
          simpa [Piece.word, Piece.sign] using stands_point_name hname rest
  | pointer target ih => exact ⟨stands_sign (by decide) _, ih h hrest⟩
  | slice element ih =>
      exact ⟨stands_sign (by decide) _, stands_sign (by decide) _, ih h hrest⟩
  | array length element ih =>
      obtain ⟨hlength, helement⟩ := Bool.and_eq_true_iff.mp h
      refine ⟨stands_sign (by decide) _, stands_number hlength ?_, stands_sign (by decide) _,
        ih helement hrest⟩
      rintro c ⟨⟩
      decide
  | map key value ihkey ihvalue =>
      obtain ⟨hkey, hvalue⟩ := Bool.and_eq_true_iff.mp h
      refine ⟨stands_keyword (by decide) (endsWord_cons (by decide) _),
        stands_sign (by decide) _, fits_append_iff.mpr ⟨?_, ?_⟩⟩
      · exact ihkey hkey (endsWord_cons (by decide) _)
      · exact ⟨stands_sign (by decide) _, ihvalue hvalue hrest⟩
  | verbatim text => cases h

theorem beginsSolid_pieces {t : TypeExpr} (h : t.isPlain) (rest : List Char) :
    BeginsSolid (spell t.pieces ++ rest) := by
  cases t with
  | named package? name =>
      obtain ⟨hpackage, hname⟩ := Bool.and_eq_true_iff.mp h
      cases package? with
      | none => exact beginsSolid_word (isIdentifier_of_isName hname) _ _
      | some package => exact beginsSolid_word (isIdentifier_of_isName hpackage) _ _
  | verbatim text => cases h
  | _ =>
      rintro c ⟨⟩
      decide

end TypeExpr

/-! ## Types as tokens -/

/-- An operand of a constant expression: a name or a decimal number. -/
def Token.IsOperand (t : Token) : Prop :=
  t.kind = .ident ∧ isName t.text ∨ t.kind = .number ∧ isDecimal t.text

/-- The tokens of a constant expression without brackets. -/
inductive IsLength : List Token → Prop
  | operand {t : Token} (ht : t.IsOperand) : IsLength [t]
  | binary {t sign : Token} {rest : List Token} (ht : t.IsOperand) (hkind : sign.kind = .punct)
      (hsign : sign.text ∈ ["+", "-", "*", "/"]) (h : IsLength rest) : IsLength (t :: sign :: rest)

/-- The texts of some tokens, one after the other. -/
def textOf : List Token → String
  | [] => ""
  | t :: rest => t.text ++ textOf rest

/-- The tokens are those of a type made of names, pointers, slices, arrays and maps. -/
inductive TypeExpr.Writes : TypeExpr → List Token → Prop
  | name {name : String} {pos : Position} (h : isName name) :
      Writes (.named none name) [⟨.ident, name, pos⟩]
  | qualified {package name : String} {pos pointPos namePos : Position} (h : isName package)
      (hname : isName name) : Writes (.named (some package) name)
        [⟨.ident, package, pos⟩, ⟨.punct, ".", pointPos⟩, ⟨.ident, name, namePos⟩]
  | pointer {target : TypeExpr} {tokens : List Token} {pos : Position} (h : Writes target tokens) :
      Writes (.pointer target) (⟨.punct, "*", pos⟩ :: tokens)
  | slice {element : TypeExpr} {tokens : List Token} {pos endPos : Position}
      (h : Writes element tokens) :
      Writes (.slice element) (⟨.punct, "[", pos⟩ :: ⟨.punct, "]", endPos⟩ :: tokens)
  | array {element : TypeExpr} {text : String} {length tokens : List Token} {pos endPos : Position}
      (hlength : IsLength length) (htext : text = textOf length) (h : Writes element tokens) :
      Writes (.array text element)
        (⟨.punct, "[", pos⟩ :: (length ++ ⟨.punct, "]", endPos⟩ :: tokens))
  | map {key value : TypeExpr} {keyTokens tokens : List Token} {pos openPos endPos : Position}
      (hkey : Writes key keyTokens) (h : Writes value tokens) :
      Writes (.map key value) (⟨.ident, "map", pos⟩ :: ⟨.punct, "[", openPos⟩ ::
        (keyTokens ++ ⟨.punct, "]", endPos⟩ :: tokens))

/-- What is printed is an instance of it. -/
theorem TypeExpr.writes_pieces {type : TypeExpr} (h : type.isPlain) (pos : Position) :
    type.Writes (tokensOf pos type.pieces) := by
  induction type generalizing pos with
  | named package? name =>
      obtain ⟨hpackage, hname⟩ := Bool.and_eq_true_iff.mp h
      cases package? with
      | none => exact .name hname
      | some package => exact .qualified hpackage hname
  | pointer target ih => exact .pointer (ih h _)
  | slice element ih => exact .slice (ih h _)
  | array length element ih =>
      obtain ⟨hlength, helement⟩ := Bool.and_eq_true_iff.mp h
      have htext : length = textOf [⟨.number, length, pos.after "[".toList⟩] :=
        String.append_empty.symm
      exact .array (.operand (.inr ⟨rfl, hlength⟩)) htext (ih helement _)
  | map key value ihkey ihvalue =>
      obtain ⟨hkey, hvalue⟩ := Bool.and_eq_true_iff.mp h
      rw [pieces, tokensOf_word, tokensOf_sign, tokensOf_append, tokensOf_sign]
      exact .map (ihkey hkey _) (ihvalue hvalue _)
  | verbatim text => cases h

/-! ## Reading with its outcome -/

namespace Cursor

theorem punct_ne_finish : Token.Kind.punct ≠ .finish := by decide

theorem ident_ne_finish : Token.Kind.ident ≠ .finish := by decide

/-- The cursor before other tokens, after a token on a given line. -/
def jump (c : Cursor) (line : Nat) (rest : List Token) : Cursor :=
  { c with rest := rest, lastLine := line }

/-- From a cursor something is read and some tokens are left.  The comments passed are the same. -/
def Reads {α : Type} {p : Cursor → Prop} (c : Cursor) (x : Except Fault (α × { d : Cursor // p d }))
    (a : α) (rest : List Token) : Prop :=
  ∃ line h, x = .ok (a, ⟨c.jump line rest, h⟩)

variable {c : Cursor} {line : Nat} {t : Token} {rest : List Token} {text : String}

theorem Reads.bind {α β : Type} {p q : Cursor → Prop} {middle : List Token}
    {x : Except Fault (α × { d : Cursor // p d })}
    {f : α × { d : Cursor // p d } → Except Fault (β × { d : Cursor // q d })} {a : α} {b : β}
    (hx : c.Reads x a middle) (hf : ∀ line h, c.Reads (f (a, ⟨c.jump line middle, h⟩)) b rest) :
    c.Reads (x >>= f) b rest := by
  obtain ⟨line, h, rfl⟩ := hx
  exact hf line h

theorem ok_bind {ε α β : Type} (a : α) (f : α → Except ε β) : Except.ok a >>= f = f a := rfl

theorem left_jump_lt {line' : Nat} : (c.jump line' rest).left < (c.jump line (t :: rest)).left :=
  Nat.lt_succ_self _

theorem left_jump_le {line' : Nat} : (c.jump line' rest).left ≤ (c.jump line (t :: rest)).left :=
  Nat.le_succ _

theorem current_jump : (c.jump line (t :: rest)).current = t := rfl

theorem ahead_one_jump {u : Token} : (c.jump line (t :: u :: rest)).ahead 1 = u := rfl

section Steps

variable {d e : Cursor}

theorem next?_of_eq (hd : d = c.jump line (t :: rest)) (h : t.kind ≠ .finish) :
    d.next? = some (t, ⟨c.jump t.pos.line rest, hd ▸ left_jump_lt⟩) := by
  subst hd
  exact if_neg h

theorem eat?_of_eq (hd : d = c.jump line (t :: rest)) (h : t.is text) :
    d.eat? text = some ⟨c.jump t.pos.line rest, hd ▸ left_jump_lt⟩ := by
  subst hd
  exact if_pos h

theorem eat?_eq_none (hd : d = e) (h : e.current.is text = false) : d.eat? text = none := by
  subst hd
  exact eat?_eq_none_of_current h

theorem eatIf_eq_false (hd : d = e) (h : e.current.is text = false) :
    d.eatIf text = (false, ⟨e, hd ▸ left_le _⟩) := by
  subst hd
  rw [eatIf, eat?_eq_none rfl h]

theorem expect_of_eq (hd : d = c.jump line (t :: rest)) (h : t.is text) :
    d.expect text = .ok ⟨c.jump t.pos.line rest, hd ▸ left_jump_lt⟩ := by
  rw [expect, eat?_of_eq hd h]

end Steps

theorem next?_jump (h : t.kind ≠ .finish) :
    (c.jump line (t :: rest)).next? = some (t, ⟨c.jump t.pos.line rest, left_jump_lt⟩) :=
  next?_of_eq rfl h

theorem advance_jump (h : t.kind ≠ .finish) :
    (c.jump line (t :: rest)).advance = ⟨c.jump t.pos.line rest, left_jump_le⟩ :=
  advance_of_next? (next?_jump h)

theorem eat?_jump (h : t.is text) :
    (c.jump line (t :: rest)).eat? text = some ⟨c.jump t.pos.line rest, left_jump_lt⟩ :=
  eat?_of_eq rfl h

theorem eat?_jump_eq_none (h : t.is text = false) : (c.jump line (t :: rest)).eat? text = none :=
  eat?_eq_none rfl h

theorem expect_jump (h : t.is text) :
    (c.jump line (t :: rest)).expect text = .ok ⟨c.jump t.pos.line rest, left_jump_lt⟩ :=
  expect_of_eq rfl h

theorem expectIdent_jump (h : t.kind = .ident) :
    (c.jump line (t :: rest)).expectIdent = .ok (t, ⟨c.jump t.pos.line rest, left_jump_lt⟩) := by
  rw [expectIdent, next?_jump (by rw [h]; decide)]
  exact if_pos h

/-! ## Reading types -/

/-- What follows a type does not go on with it: it is no point and no opening bracket, unless this
begins the type of a slice. -/
def EndsType (rest : List Token) : Prop :=
  ∃ t more, rest = t :: more ∧ t.is "." = false ∧
    (t.is "[" = false ∨ ∃ u more', more = u :: more' ∧ u.is "]")

/-- A word that stands for itself has no other text. -/
theorem is_word_eq_false {name : String} (h : isName name) (hother : isSpecial text)
    (pos : Position) : (⟨.ident, name, pos⟩ : Token).is text = false := by
  simpa [Token.is] using ne_of_isName h hother

theorem is_number_eq_false {number : String} (h : isDecimal number)
    (hother : isDecimal text = false) (pos : Position) :
    (⟨.number, number, pos⟩ : Token).is text = false := by
  have hne : number ≠ text := by
    rintro rfl
    rw [h] at hother
    cases hother
  simpa [Token.is] using hne

/-- A token that a type can begin with. -/
def BeginsType (t : Token) : Prop :=
  t.kind = .ident ∧ (isName t.text ∨ t.text = "map") ∨
    t.kind = .punct ∧ (t.text = "*" ∨ t.text = "[")

theorem exists_beginsType {type : TypeExpr} (h : type.isPlain) (pos : Position) :
    ∃ t more, tokensOf pos type.pieces = t :: more ∧ t.pos = pos ∧ BeginsType t := by
  cases type with
  | named package? name =>
      obtain ⟨hpackage, hname⟩ := Bool.and_eq_true_iff.mp h
      cases package? with
      | none => exact ⟨_, _, rfl, rfl, .inl ⟨rfl, .inl hname⟩⟩
      | some package => exact ⟨_, _, rfl, rfl, .inl ⟨rfl, .inl hpackage⟩⟩
  | pointer target => exact ⟨_, _, rfl, rfl, .inr ⟨rfl, .inl rfl⟩⟩
  | slice element => exact ⟨_, _, rfl, rfl, .inr ⟨rfl, .inr rfl⟩⟩
  | array length element => exact ⟨_, _, rfl, rfl, .inr ⟨rfl, .inr rfl⟩⟩
  | map key value => exact ⟨_, _, rfl, rfl, .inl ⟨rfl, .inr rfl⟩⟩
  | verbatim text => cases h

theorem BeginsType.is_eq_false (h : BeginsType t) (hspecial : isSpecial text)
    (hother : text ∉ ["map", "*", "["]) : t.is text = false := by
  refine Bool.eq_false_iff.mpr fun his => ?_
  have htext := Token.text_of_is his
  simp only [BeginsType, htext, isName_eq_false hspecial] at h
  simp_all

/-- The brackets of a slice are not taken for those of a type argument. -/
theorem endsType_pieces {type : TypeExpr} (h : type.isPlain) (harray : type.isArray = false)
    (pos : Position) : EndsType (tokensOf pos type.pieces ++ rest) := by
  have hname : ∀ name pos, isName name →
      (⟨.ident, name, pos⟩ : Token).is "." = false ∧ (⟨.ident, name, pos⟩ : Token).is "[" = false :=
    fun name pos hname => ⟨is_word_eq_false hname (by decide) pos,
      is_word_eq_false hname (by decide) pos⟩
  cases type with
  | named package? name =>
      obtain ⟨hpackage, hlocal⟩ := Bool.and_eq_true_iff.mp h
      cases package? with
      | none => exact ⟨_, _, rfl, (hname _ _ hlocal).1, .inl (hname _ _ hlocal).2⟩
      | some package => exact ⟨_, _, rfl, (hname _ _ hpackage).1, .inl (hname _ _ hpackage).2⟩
  | pointer target => exact ⟨_, _, rfl, rfl, .inl rfl⟩
  | slice element => exact ⟨_, _, rfl, rfl, .inr ⟨_, _, rfl, rfl⟩⟩
  | array length element => cases harray
  | map key value => exact ⟨_, _, rfl, rfl, .inl rfl⟩
  | verbatim text => cases h

/-- An operand stands for itself. -/
theorem is_operand_eq_false (h : t.IsOperand) (hspecial : isSpecial text)
    (hdecimal : isDecimal text = false) : t.is text = false := by
  obtain ⟨kind, name, pos⟩ := t
  rcases h with ⟨hkind, hname⟩ | ⟨hkind, hnumber⟩
  · cases hkind
    exact is_word_eq_false hname hspecial pos
  · cases hkind
    exact is_number_eq_false hnumber hdecimal pos

/-- A sign of a constant expression is none of another kind. -/
theorem is_operator_eq_false (hkind : t.kind = .punct) (hsign : t.text ∈ ["+", "-", "*", "/"])
    (htext : text ∉ ["+", "-", "*", "/"]) : t.is text = false := by
  rw [Token.is, hkind]
  refine beq_eq_false_iff_ne.mpr fun heq => htext ?_
  rwa [← heq]

theorem kind_ne_finish_of_isOperand (h : t.IsOperand) : t.kind ≠ .finish := by
  rcases h with ⟨hkind, -⟩ | ⟨hkind, -⟩ <;> rw [hkind] <;> decide

/-- A length is not empty. -/
theorem eat?_length_eq_none {length : List Token} (h : IsLength length) :
    (c.jump line (length ++ rest)).eat? "]" = none := by
  cases h with
  | operand hu => exact eat?_jump_eq_none (is_operand_eq_false hu (by decide) (by decide))
  | binary hu => exact eat?_jump_eq_none (is_operand_eq_false hu (by decide) (by decide))

/-- A length goes up to the closing bracket. -/
theorem reads_arrayLength {length : List Token} (h : IsLength length) (ht : t.is "]") :
    c.Reads (c.jump line (length ++ t :: rest)).arrayLength (textOf length) (t :: rest) := by
  have hstep {u : Token} {more : List Token} {text : String} {line : Nat} (hu : u.is "]" = false)
      (hend : u.kind ≠ .finish)
      (hmore : ∀ line, c.Reads (c.jump line more).arrayLength text (t :: rest)) :
      c.Reads (c.jump line (u :: more)).arrayLength (u.text ++ text) (t :: rest) := by
    rw [arrayLength, current_jump, hu, if_neg Bool.false_ne_true, next?_jump hend]
    exact .bind (hmore _) fun line h => ⟨line, _, rfl⟩
  have hlast (line : Nat) : c.Reads (c.jump line (t :: rest)).arrayLength "" (t :: rest) := by
    rw [arrayLength, current_jump, if_pos ht]
    exact ⟨line, _, rfl⟩
  induction h generalizing line with
  | @operand u hu =>
      exact hstep (is_operand_eq_false hu (by decide) (by decide)) (kind_ne_finish_of_isOperand hu)
        hlast
  | @binary u sign more hu hkind hsign _ ih =>
      have hend : sign.kind ≠ .finish := by
        rw [hkind]
        decide
      refine hstep (is_operand_eq_false hu (by decide) (by decide)) (kind_ne_finish_of_isOperand hu)
        fun line => hstep (is_operator_eq_false hkind hsign (by decide)) hend fun line => ?_
      exact ih

theorem reads_expectIdent (name : String) (pos : Position) :
    c.Reads (c.jump line (⟨.ident, name, pos⟩ :: rest)).expectIdent ⟨.ident, name, pos⟩ rest :=
  ⟨pos.line, _, expectIdent_jump rfl⟩

theorem reads_qualifiedName (name : String) (pos : Position) (hpoint : t.is "." = false) :
    c.Reads (c.jump line (⟨.ident, name, pos⟩ :: t :: rest)).qualifiedName (.named none name)
      (t :: rest) := by
  refine .bind (reads_expectIdent _ _) fun line h => ?_
  dsimp only
  rw [current_jump, hpoint, if_neg (by simp)]
  exact ⟨line, _, rfl⟩

theorem reads_qualifiedName_point (package name : String) (pos pointPos namePos : Position) :
    c.Reads (c.jump line (⟨.ident, package, pos⟩ :: ⟨.punct, ".", pointPos⟩ ::
      ⟨.ident, name, namePos⟩ :: rest)).qualifiedName (.named (some package) name) rest := by
  have hpoint : (⟨.punct, ".", pointPos⟩ : Token).kind ≠ .finish := punct_ne_finish
  refine .bind (reads_expectIdent _ _) fun line h => ?_
  dsimp only
  rw [current_jump, ahead_one_jump, if_pos ⟨rfl, rfl⟩, next?_jump hpoint]
  exact .bind (reads_expectIdent _ _) fun line h => ⟨line, _, rfl⟩

section Choice

variable {α : Type} {read : (d : Cursor) → Except Fault (α × d.Later)} {atEnd : Fault}
  {other : Except Fault (α × (c.jump line (t :: rest)).Later)} {a : α} {later : List Token}

/-- A form whose word or sign stands in front. -/
theorem reads_followedBy (his : t.is text) (hend : t.kind ≠ .finish)
    (h : c.Reads (read (c.jump t.pos.line rest)) a later) :
    c.Reads ((c.jump line (t :: rest)).followedBy text read atEnd other) a later := by
  rw [followedBy_of_next? his (next?_jump hend)]
  exact .bind h fun line h => ⟨line, _, rfl⟩

/-- A form whose word or sign does not stand in front. -/
theorem reads_followedBy_other (his : t.is text = false) (h : c.Reads other a later) :
    c.Reads ((c.jump line (t :: rest)).followedBy text read atEnd other) a later := by
  have hcurrent : (c.jump line (t :: rest)).current.is text = false := his
  rw [followedBy_eq_other hcurrent]
  exact h

end Choice

/-- A type that begins with a word is a name, or the instance of a generic type. -/
theorem parseType_of_word {word : String} (h : isName word) (pos : Position) :
    (c.jump line (⟨.ident, word, pos⟩ :: rest)).parseType =
      (c.jump line (⟨.ident, word, pos⟩ :: rest)).namedType := by
  have hother : ∀ text, isSpecial text →
      (c.jump line (⟨.ident, word, pos⟩ :: rest)).current.is text = false :=
    fun text hother => is_word_eq_false h hother pos
  have hverbatim : verbatimStarts.any (c.jump line (⟨.ident, word, pos⟩ :: rest)).current.is =
      false := by
    refine List.any_eq_false.mpr fun text htext => Bool.eq_false_iff.mp (hother text ?_)
    revert text
    decide
  rw [parseType_eq, followedBy_eq_other (hother _ (by decide)),
    followedBy_eq_other (hother _ (by decide)), followedBy_eq_other (hother _ (by decide)),
    followedBy_eq_other (hother _ (by decide)), plainType, hverbatim,
    if_neg Bool.false_ne_true]
  exact if_pos rfl

theorem reads_parseType_of_word {word : String} {type : TypeExpr} {pos : Position}
    {middle : List Token} (h : isName word)
    (hname : c.Reads (c.jump line (⟨.ident, word, pos⟩ :: middle)).qualifiedName type (t :: rest))
    (hrest : t.is "[" = false ∨ ∃ u more, rest = u :: more ∧ u.is "]") :
    c.Reads (c.jump line (⟨.ident, word, pos⟩ :: middle)).parseType type (t :: rest) := by
  rw [parseType_of_word h]
  refine .bind hname fun line h => ?_
  dsimp only
  rcases hrest with hbracket | ⟨u, more, rfl, hslice⟩
  · rw [current_jump, hbracket, if_neg (by simp)]
    exact ⟨line, _, rfl⟩
  · rw [ahead_one_jump, hslice, if_neg (by simp)]
    exact ⟨line, _, rfl⟩

/-- A type is read from its tokens. -/
theorem reads_parseType_of_writes {type : TypeExpr} {tokens : List Token}
    (htype : type.Writes tokens) (hrest : EndsType rest) :
    c.Reads (c.jump line (tokens ++ rest)).parseType type rest := by
  induction htype generalizing line rest with
  | @name name pos hname =>
      obtain ⟨t, more, rfl, hpoint, hbracket⟩ := hrest
      exact reads_parseType_of_word hname (reads_qualifiedName name pos hpoint) hbracket
  | @qualified package name pos pointPos namePos hpackage hname =>
      obtain ⟨t, more, rfl, hpoint, hbracket⟩ := hrest
      refine reads_parseType_of_word hpackage ?_ hbracket
      exact reads_qualifiedName_point package name pos pointPos namePos
  | pointer _ ih =>
      rw [List.cons_append, parseType_eq]
      refine reads_followedBy rfl punct_ne_finish ?_
      exact .bind (ih hrest) fun line h => ⟨line, _, rfl⟩
  | slice _ ih =>
      rw [List.cons_append, List.cons_append, parseType_eq]
      refine reads_followedBy_other rfl (reads_followedBy_other rfl
        (reads_followedBy rfl punct_ne_finish ?_))
      rw [bracketedType, eat?_jump rfl]
      exact .bind (ih hrest) fun line h => ⟨line, _, rfl⟩
  | @array element text length tokens pos endPos hlength htext _ ih =>
      subst htext
      rw [List.cons_append, List.append_assoc, List.cons_append, parseType_eq]
      refine reads_followedBy_other rfl (reads_followedBy_other rfl
        (reads_followedBy rfl punct_ne_finish ?_))
      rw [bracketedType, eat?_length_eq_none hlength]
      refine .bind (reads_arrayLength hlength rfl) fun line h => ?_
      dsimp only
      rw [expect_jump rfl]
      exact .bind (ih hrest) fun line h => ⟨line, _, rfl⟩
  | map _ _ ihkey ihvalue =>
      rw [List.cons_append, List.cons_append, List.append_assoc, List.cons_append, parseType_eq]
      refine reads_followedBy_other rfl (reads_followedBy_other rfl
        (reads_followedBy_other rfl (reads_followedBy rfl ident_ne_finish ?_)))
      rw [mapType, expect_jump rfl]
      refine .bind (ihkey ⟨_, _, rfl, rfl, .inl rfl⟩) fun line h => ?_
      dsimp only
      rw [expect_jump rfl]
      exact .bind (ihvalue hrest) fun line h => ⟨line, _, rfl⟩

/-- A type is read as it is printed. -/
theorem reads_parseType {type : TypeExpr} (htype : type.isPlain) (pos : Position)
    (hrest : EndsType rest) :
    c.Reads (c.jump line (tokensOf pos type.pieces ++ rest)).parseType type rest :=
  reads_parseType_of_writes (TypeExpr.writes_pieces htype pos) hrest

end Cursor

end GoSchema.Go
