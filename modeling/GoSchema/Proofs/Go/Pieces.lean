import GoSchema.Proofs.Go.Adjacency
import GoSchema.Proofs.Go.Tiling
import Mathlib.Tactic.IntervalCases

/-!
# Texts put together from lexemes

A Go text that is printed is put together from pieces, each of which is meant to be one lexeme.
Scanning cuts it into the same pieces again (`scan_spell`), as long as every piece fits in front of
what follows it: a word must not go on, a point must not begin a number, a comment must end with its
line.

## Strategy

`Fits` is about some pieces with the text that follows them really there, so that texts can be put
together without a piece growing into the next one.  What a piece asks of what follows is in each
case a condition on one character, and there is one lemma for each kind of piece.
-/

namespace GoSchema.Go

open Lexeme

/-! ## Signs and names -/

/-- The words that are no names. -/
def keywords : List String :=
  ["break", "case", "chan", "const", "continue", "default", "defer", "else", "fallthrough", "for",
   "func", "go", "goto", "if", "import", "interface", "map", "package", "range", "return", "select",
   "struct", "switch", "type", "var"]

/-- An identifier that is no keyword. -/
def isName (name : String) : Bool := isIdentifier name && !keywords.contains name

theorem isIdentifier_of_isName {name : String} (h : isName name) : isIdentifier name := by
  rw [isName, Bool.and_eq_true] at h
  exact h.1

theorem isIdentifier_of_mem_keywords : ∀ word ∈ keywords, isIdentifier word := by decide +kernel

/-- A text that is no name at first sight: it begins with a mark, or it is a keyword. -/
def isSpecial (text : String) : Bool :=
  text.toList.head?.any marks.contains || keywords.contains text

theorem isName_eq_false {text : String} (h : isSpecial text) : isName text = false := by
  rcases Bool.or_eq_true_iff.mp h with hmark | hkeyword
  · obtain ⟨c, hhead, hc⟩ := (Option.any_eq_true _ _).mp hmark
    obtain ⟨rest, htext⟩ := List.head?_eq_some_iff.mp hhead
    rw [isName, isIdentifier, htext]
    dsimp only
    rw [isIdentStart_eq_false (List.contains_iff_mem.mp hc)]
    rfl
  · rw [isName, hkeyword, Bool.not_true, Bool.and_false]

theorem ne_of_isName {name other : String} (h : isName name) (hother : isSpecial other) :
    name ≠ other := by
  rintro rfl
  rw [isName_eq_false hother] at h
  cases h

/-- The digits of a decimal number. -/
def isDecimal (number : String) : Bool := !number.isEmpty && number.toList.all Char.isDigit

/-! ## Pieces -/

/-- A lexeme to be, with the kind of token that it makes. -/
structure Piece where
  kind? : Option Token.Kind
  text : String
deriving Repr, DecidableEq

namespace Piece

/-- A name or a keyword. -/
def word (name : String) : Piece := ⟨some .ident, name⟩

/-- The digits of a number. -/
def number (digits : String) : Piece := ⟨some .number, digits⟩

/-- A sign. -/
def sign (text : String) : Piece := ⟨some .punct, text⟩

/-- The end of a line. -/
def lineEnd : Piece := ⟨some .newline, "\n"⟩

/-- A blank, which is no token. -/
def blank : Piece := ⟨none, " "⟩

/-- A tabulator, which is no token. -/
def indent : Piece := ⟨none, "\t"⟩

/-- A line comment with what it says. -/
def comment (body : String) : Piece := ⟨some .comment, "//" ++ body⟩

/-- A raw string with what is between its marks. -/
def raw (body : String) : Piece := ⟨some .str, "\x60" ++ body ++ "\x60"⟩

end Piece

/-- The text of some pieces. -/
def spell (pieces : List Piece) : List Char := pieces.flatMap fun p => p.text.toList

/-- Each of the pieces is the lexeme at its place, when `rest` follows them. -/
def Fits : List Piece → List Char → Prop
  | [], _ => True
  | p :: pieces, rest => Stands p.kind? p.text.toList (spell pieces ++ rest) ∧ Fits pieces rest

/-- The tokens of some pieces that begin at a place. -/
def tokensOf (pos : Position) : List Piece → List Token
  | [] => []
  | p :: pieces =>
    (p.kind?.map fun kind => ⟨kind, p.text, pos⟩).toList ++
      tokensOf (pos.after p.text.toList) pieces

section Spelling

variable (p : Piece) (pieces more : List Piece) (pos : Position)

@[simp] theorem spell_nil : spell [] = [] := rfl

@[simp] theorem spell_cons : spell (p :: pieces) = p.text.toList ++ spell pieces := rfl

@[simp] theorem spell_append : spell (pieces ++ more) = spell pieces ++ spell more :=
  List.flatMap_append

theorem fits_append_iff {pieces more : List Piece} {rest : List Char} :
    Fits (pieces ++ more) rest ↔ Fits pieces (spell more ++ rest) ∧ Fits more rest := by
  induction pieces with
  | nil => simp [Fits]
  | cons p pieces ih =>
      rw [List.cons_append, Fits, Fits, ih, spell_append, List.append_assoc, and_assoc]

theorem fits_flatMap {α : Type} {f : α → List Piece} {l : List α}
    (h : ∀ a ∈ l, ∀ rest, Fits (f a) rest) (rest : List Char) : Fits (l.flatMap f) rest := by
  induction l with
  | nil => exact trivial
  | cons a l ih =>
      obtain ⟨ha, hl⟩ := List.forall_mem_cons.mp h
      exact fits_append_iff.mpr ⟨ha _, ih hl⟩

@[simp] theorem tokensOf_nil : tokensOf pos [] = [] := rfl

@[simp] theorem tokensOf_word (name : String) :
    tokensOf pos (.word name :: pieces) =
      ⟨.ident, name, pos⟩ :: tokensOf (pos.after name.toList) pieces := rfl

@[simp] theorem tokensOf_number (digits : String) :
    tokensOf pos (.number digits :: pieces) =
      ⟨.number, digits, pos⟩ :: tokensOf (pos.after digits.toList) pieces := rfl

@[simp] theorem tokensOf_sign (text : String) :
    tokensOf pos (.sign text :: pieces) =
      ⟨.punct, text, pos⟩ :: tokensOf (pos.after text.toList) pieces := rfl

@[simp] theorem tokensOf_blank :
    tokensOf pos (.blank :: pieces) = tokensOf (pos.after [' ']) pieces := rfl

@[simp] theorem tokensOf_indent :
    tokensOf pos (.indent :: pieces) = tokensOf (pos.after ['\t']) pieces := rfl

@[simp] theorem tokensOf_lineEnd :
    tokensOf pos (.lineEnd :: pieces) =
      ⟨.newline, "\n", pos⟩ :: tokensOf (pos.after ['\n']) pieces := rfl

@[simp] theorem tokensOf_comment (body : String) :
    tokensOf pos (.comment body :: pieces) =
      ⟨.comment, "//" ++ body, pos⟩ :: tokensOf (pos.after ("//" ++ body).toList) pieces := rfl

@[simp] theorem tokensOf_raw (body : String) :
    tokensOf pos (.raw body :: pieces) =
      ⟨.str, "\x60" ++ body ++ "\x60", pos⟩ ::
        tokensOf (pos.after ("\x60" ++ body ++ "\x60").toList) pieces := rfl

theorem Position.after_append (s t : List Char) : pos.after (s ++ t) = (pos.after s).after t :=
  List.foldl_append

theorem tokensOf_append :
    tokensOf pos (pieces ++ more) =
      tokensOf pos pieces ++ tokensOf (pos.after (spell pieces)) more := by
  induction pieces generalizing pos with
  | nil => rfl
  | cons p pieces ih =>
      rw [List.cons_append, tokensOf, tokensOf, ih, spell_cons, Position.after_append,
        List.append_assoc]

end Spelling

/-- Scanning cuts a text into the pieces that it was put together from. -/
theorem scanFrom_spell {pieces : List Piece} (h : Fits pieces []) (pos : Position) :
    Token.scanFrom pos (spell pieces) =
      .ok (tokensOf pos pieces ++ [.atEnd (pos.after (spell pieces))]) := by
  induction pieces generalizing pos with
  | nil => exact Token.scanFrom_nil pos
  | cons p pieces ih =>
      obtain ⟨hp, hpieces⟩ := h
      rw [List.append_nil] at hp
      rw [spell_cons, tokensOf, Position.after_append]
      obtain ⟨kind?, text⟩ := p
      cases kind? with
      | none =>
          rw [Token.scanFrom_of_gap pos hp, ih hpieces]
          rfl
      | some kind =>
          rw [Token.scanFrom_of_token pos hp, ih hpieces, String.ofList_toList]
          rfl

theorem scan_spell {pieces : List Piece} (h : Fits pieces []) :
    Token.scan (String.ofList (spell pieces)) =
      .ok (tokensOf .start pieces ++ [.atEnd (Position.start.after (spell pieces))]) := by
  rw [Token.scan, String.toList_ofList]
  exact scanFrom_spell h .start

/-! ## What each piece asks of what follows it -/

/-- What follows does not go on with a word. -/
def EndsWord (rest : List Char) : Prop := ∀ c ∈ rest.head?, isIdentPart c = false

theorem stands_word {name : String} (h : isIdentifier name) {rest : List Char}
    (hrest : EndsWord rest) : Stands (some .ident) name.toList rest := by
  unfold isIdentifier at h
  split at h
  · cases h
  · next c more hname =>
    obtain ⟨hstart, hmore⟩ := Bool.and_eq_true_iff.mp h
    rw [hname]
    exact (Form.word hstart (List.all_eq_true.mp hmore)).stands (by decide) hrest

theorem stands_keyword {word : String} (h : word ∈ keywords) {rest : List Char}
    (hrest : EndsWord rest) : Stands (some .ident) word.toList rest :=
  stands_word (isIdentifier_of_mem_keywords word h) hrest

/-- The decimal digits of numbers. -/
def digits : List Char := ['0', '1', '2', '3', '4', '5', '6', '7', '8', '9']

theorem mem_digits_of_isDigit {c : Char} (h : c.isDigit) : c ∈ digits := by
  simp only [Char.isDigit, Bool.and_eq_true, decide_eq_true_eq] at h
  have hlow : 48 ≤ c.toNat := h.1
  have hhigh : c.toNat ≤ 57 := h.2
  rw [← Char.ofNat_toNat c]
  generalize c.toNat = n at hlow hhigh
  interval_cases n <;> decide

theorem stands_number {number : String} (h : isDecimal number) {rest : List Char}
    (hrest : ∀ c ∈ rest.head?, (isNumberPart c || c == '.') = false) :
    Stands (some .number) number.toList rest := by
  rw [isDecimal, Bool.and_eq_true, List.all_eq_true] at h
  obtain ⟨hne, hdigits⟩ := h
  have hstarts : ∀ d ∈ digits, Text.isDecimalDigit d :=
    List.all_iff_forall_prop.mp (by decide +kernel)
  cases hnumber : number.toList with
  | nil =>
      rw [String.toList_eq_nil_iff.mp hnumber] at hne
      cases hne
  | cons c more =>
      rw [hnumber] at hdigits
      obtain ⟨hc, hmore⟩ := List.forall_mem_cons.mp hdigits
      have hparts : ∀ d ∈ more, (isNumberPart d || d == '.') = true := fun d hd => by
        simp [isNumberPart, Char.isAlphanum, hmore d hd]
      have hstands := stands_digits (hstarts c (mem_digits_of_isDigit hc)) hparts hrest
      rwa [if_pos hc] at hstands

/-- The signs that do not depend on what follows them. -/
def loneSigns : List String := ["*", "(", ")", "[", "]", "\x7b", "\x7d", ","]

theorem stands_sign {text : String} (h : text ∈ loneSigns) (rest : List Char) :
    Stands (some .punct) text.toList rest := by
  obtain ⟨c, htext⟩ : ∃ c, text.toList = [c] :=
    List.length_eq_one_iff.mp ((by decide : ∀ text ∈ loneSigns, text.toList.length = 1) text h)
  have hsigns : ∀ text ∈ loneSigns, text.toList.all fun c => c ∈ signs ∧ c ∉ specialStarts := by
    decide
  obtain ⟨hsign, hspecial⟩ :=
    List.all_iff_forall_prop.mp (hsigns text h) c (htext ▸ List.mem_singleton_self c)
  rw [htext]
  exact stands_lone_sign hsign fun d _ => joins_eq_false hspecial d

/-- A point before a name is a sign of its own. -/
theorem stands_point {c : Char} (h : isIdentStart c) (rest : List Char) :
    Stands (some .punct) ['.'] (c :: rest) := by
  have hpoint : c ≠ '.' := by
    rintro rfl
    exact absurd h (by decide +kernel)
  have hdigit : Text.isDecimalDigit c = false := by
    refine Bool.eq_false_iff.mpr fun hdigit => ?_
    rw [(digit_apart hdigit).2] at h
    cases h
  refine stands_lone_sign (by decide) ?_
  rintro d ⟨⟩
  simp [joins, operators, List.isPrefixOf, hpoint, hdigit]

theorem stands_point_name {name : String} (h : isIdentifier name) (rest : List Char) :
    Stands (some .punct) ['.'] (name.toList ++ rest) := by
  unfold isIdentifier at h
  split at h
  · cases h
  · next c more hname =>
    rw [hname]
    exact stands_point (Bool.and_eq_true_iff.mp h).1 _

theorem beginsSolid_word {name : String} (h : isIdentifier name) (pieces : List Piece)
    (rest : List Char) : BeginsSolid (spell (.word name :: pieces) ++ rest) := by
  unfold isIdentifier at h
  split at h
  · cases h
  · next c more hname =>
    rw [spell_cons, Piece.word, hname]
    rintro d ⟨⟩
    refine Bool.eq_false_iff.mpr fun hblank => ?_
    rw [isIdentStart_eq_false (mem_marks_of_isBlank hblank).1] at h
    cases h

theorem stands_comment {body : String} (h : '\n' ∉ body.toList) (rest : List Char) :
    Stands (some .comment) ("//" ++ body).toList ('\n' :: rest) := by
  have hbody : ∀ c ∈ body.toList, (c != '\n') = true := fun c hc => by
    rw [bne_iff_ne]
    rintro rfl
    exact h hc
  have hrun : run (· != '\n') (body.toList ++ '\n' :: rest) = body.toList.length := by
    refine run_append hbody fun c hc => ?_
    cases hc
    rfl
  have htext : ("//" ++ body).toList = '/' :: '/' :: body.toList := by simp
  rw [Stands, htext, List.cons_append, List.cons_append, atStart?, enclosed?, hrun]
  rfl

theorem stands_raw {body : String} (h : '\x60' ∉ body.toList) (rest : List Char) :
    Stands (some .str) ("\x60" ++ body ++ "\x60").toList rest := by
  have htext : ("\x60" ++ body ++ "\x60").toList = '\x60' :: (body.toList ++ ['\x60']) := by simp
  rw [htext]
  exact (Form.rawString h).stands nofun fun _ _ => rfl

/-- Characters that stand between a word and what comes after it. -/
def separators : List Char := [' ', '\n', '.', ',', '(', ')', '[', ']']

theorem endsWord_cons {c : Char} (h : c ∈ separators) (rest : List Char) :
    EndsWord (c :: rest) := by
  have hmarks : separators ⊆ marks := by decide
  rintro d hd
  cases hd
  exact (marks_apart c (hmarks h)).1

end GoSchema.Go
