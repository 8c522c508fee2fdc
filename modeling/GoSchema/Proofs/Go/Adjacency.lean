import GoSchema.Proofs.Go.Names
import GoSchema.Proofs.Go.Forms
import GoSchema.Proofs.Text.Classes
import Mathlib.Data.Bool.AllAny

/-!
# Lexemes next to each other

Which lexeme stands at a place depends on what follows it.  A word goes on as long as it can, a
number takes points, and two signs may make one.  But it depends on no more than the next character
(`Form.stands`): anything that has the form of a token is found in front of a text whose first
character it does not take (`takes`).  A run of blanks stands in front of anything that does not
begin with one (`stands_blanks`).

The one exception are line comments, which take everything up to the end of their line.
-/

namespace GoSchema.Go

open Lexeme Text

/-! ## Characters -/

/-- The characters that signs, blanks and the marks of literals are made of. -/
def marks : List Char :=
  ['/', '\x60', '"', '\'', '.', '<', ':', '&', '|', '=', '!', '>', '+', '-', '*', '(', ')', '[',
   ']', '\x7b', '\x7d', ',', ';', ' ', '\t', '\r', '\n']

/-- No mark is part of a word, and none is a digit. -/
theorem marks_apart : ∀ c ∈ marks, isIdentPart c = false ∧ isDecimalDigit c = false :=
  List.all_iff_forall_prop.mp (by decide +kernel)

theorem isIdentStart_eq_false {c : Char} (h : c ∈ marks) : isIdentStart c = false := by
  refine Bool.eq_false_iff.mpr fun hstart => ?_
  have hpart := isIdentPart_of_isIdentStart hstart
  rw [(marks_apart c h).1] at hpart
  cases hpart

/-- The first characters of the forms that are tried before those which their first character
tells apart. -/
def specialStarts : List Char :=
  ['/', '\x60', '"', '\'', '.', '<', ':', '&', '|', '=', '!', '>', '+', '-']

theorem notMem_specialStarts_of_isIdentStart {c : Char} (h : isIdentStart c) :
    c ∉ specialStarts := by
  intro hmem
  have hmarks : specialStarts ⊆ marks := by decide
  rw [isIdentStart_eq_false (hmarks hmem)] at h
  cases h

theorem mem_marks_of_isBlank {c : Char} (h : isBlank c) :
    c ∈ marks ∧ c ∉ specialStarts ∧ c ≠ '\n' := by
  have hblanks : [' ', '\t', '\r'].all fun d => d ∈ marks ∧ d ∉ specialStarts ∧ d ≠ '\n' := by
    decide
  exact List.all_iff_forall_prop.mp hblanks c (by simpa [isBlank, or_assoc] using h)

theorem digit_apart {c : Char} (h : isDecimalDigit c) :
    c ∉ specialStarts ∧ isIdentStart c = false := by
  have hmarks : specialStarts ⊆ marks := by decide
  refine ⟨fun hmem => ?_, Bool.eq_false_iff.mpr fun hstart => ?_⟩
  · rw [(marks_apart c (hmarks hmem)).2] at h
    cases h
  · rcases Bool.or_eq_true_iff.mp hstart with hletter | hunderscore
    · rw [isDecimalDigit_eq_false_of_isLetter hletter] at h
      cases h
    · rw [beq_iff_eq.mp hunderscore] at h
      exact absurd h (by decide +kernel)

/-! ## Lexemes that their first character tells apart -/

/-- The first characters of comments and literals. -/
def enclosers : List Char := ['/', '\x60', '"', '\'']

theorem enclosed?_of_notMem {c : Char} (h : c ∉ enclosers) (s : List Char) :
    enclosed? (c :: s) = none := by
  unfold enclosed?
  split <;> simp_all [enclosers]

/-- Signs of several characters begin like forms that are tried early. -/
theorem exists_cons_of_mem_operators : ∀ op ∈ operators,
    ∃ c more, op.toList = c :: more ∧ c ∈ specialStarts ∧ c ∉ enclosers := by
  have hheads : ∀ op ∈ operators,
      op.toList.head?.any fun c => c ∈ specialStarts ∧ c ∉ enclosers := by decide
  intro op hop
  obtain ⟨c, hhead, hc⟩ := (Option.any_eq_true _ _).mp (hheads op hop)
  obtain ⟨more, htext⟩ := List.head?_eq_some_iff.mp hhead
  exact ⟨c, more, htext, of_decide_eq_true hc⟩

theorem atStart?_of_notMem {c : Char} (h : c ∉ specialStarts) (s : List Char) :
    atStart? (c :: s) = simple? (c :: s) := by
  have hsubset : enclosers ⊆ specialStarts := by decide
  have hoperator : operator? (c :: s) = none := by
    rw [operator?, Option.map_eq_none_iff, List.find?_eq_none]
    intro op hop hbegins
    obtain ⟨d, more, htext, hd, -⟩ := exists_cons_of_mem_operators op hop
    have hbegins := List.isPrefixOf_iff_prefix.mp hbegins
    rw [htext] at hbegins
    obtain ⟨rfl, -⟩ := List.cons_prefix_cons.mp hbegins
    exact h hd
  have hpoint : pointNumber? (c :: s) = none := by
    unfold pointNumber?
    split <;> simp_all [specialStarts]
  rw [atStart?, enclosed?_of_notMem (mt (hsubset ·) h), hoperator, hpoint]
  rfl

theorem run_append {p : Char → Bool} {s rest : List Char} (hs : ∀ c ∈ s, p c)
    (hrest : ∀ c ∈ rest.head?, p c = false) : run p (s ++ rest) = s.length := by
  rw [run, List.takeWhile_append_of_pos hs]
  cases rest with
  | nil => simp
  | cons c rest => simp [hrest c rfl]

theorem stands_lineEnd (rest : List Char) : Stands (some .newline) ['\n'] rest := by
  have hmark : '\n' ∈ marks := by decide
  rw [Stands, List.singleton_append, atStart?_of_notMem (by decide), simple?,
    isIdentStart_eq_false hmark, (marks_apart _ hmark).2, if_neg Bool.false_ne_true,
    if_neg Bool.false_ne_true, if_pos rfl]
  rfl

/-- The text does not begin with a blank. -/
def BeginsSolid (s : List Char) : Prop := ∀ c ∈ s.head?, isBlank c = false

/-- A run of blanks is one lexeme. -/
theorem stands_blanks {s rest : List Char} (hne : s ≠ []) (h : ∀ c ∈ s, isBlank c)
    (hrest : BeginsSolid rest) : Stands none s rest := by
  obtain ⟨c, s, rfl⟩ := List.exists_cons_of_ne_nil hne
  obtain ⟨hc, hs⟩ := List.forall_mem_cons.mp h
  obtain ⟨hmark, hspecial, hline⟩ := mem_marks_of_isBlank hc
  rw [Stands, List.cons_append, atStart?_of_notMem hspecial, simple?, isIdentStart_eq_false hmark,
    (marks_apart c hmark).2, if_neg Bool.false_ne_true, if_neg Bool.false_ne_true, if_neg hline,
    if_pos hc, run_append hs hrest]
  rfl

theorem stands_blank {c : Char} (h : isBlank c) {rest : List Char} (hrest : BeginsSolid rest) :
    Stands none [c] rest :=
  stands_blanks (List.cons_ne_nil c []) (List.forall_mem_singleton.mpr h) hrest

namespace Lexeme

/-- Whether a sign makes a longer sign, a comment or a number with a character behind it. -/
def joins (c d : Char) : Bool :=
  operators.any (fun op => [c, d].isPrefixOf op.toList) ||
    c == '/' && (d == '/' || d == '*') || c == '.' && isDecimalDigit d

/-- Whether a lexeme is another one with a character behind it. -/
def takes (kind : Token.Kind) (s : List Char) (d : Char) : Bool :=
  match kind, s with
  | .ident, _ => isIdentPart d
  | .number, '.' :: _ => isNumberPart d
  | .number, _ => isNumberPart d || d == '.'
  | .punct, c :: more =>
    if isDecimalDigit c then isNumberPart d || d == '.' else more.isEmpty && joins c d
  | _, _ => false

variable {s rest : List Char}

/-! ## Each form in front of a text -/

theorem stands_literal {mark : Char} (hmark : mark = '"' ∨ mark = '\'') {body : List Char}
    (h : LiteralBody mark body) (rest : List Char) :
    Stands (some .str) (mark :: (body ++ [mark])) rest := by
  rw [Stands, List.cons_append, List.append_assoc, List.singleton_append]
  rcases hmark with rfl | rfl
  · rw [atStart?, enclosed?, literalEnd?_append (by decide) h]
    simp
  · rw [atStart?, enclosed?, literalEnd?_append (by decide) h]
    simp

theorem eq_of_isPrefixOf_operators : ∀ op ∈ operators, ∀ op' ∈ operators,
    op.toList.isPrefixOf op'.toList → op = op' := by
  decide

/-- No sign of several characters begins another one. -/
theorem stands_operator {op : String} (h : op ∈ operators) (rest : List Char) :
    Stands (some .punct) op.toList rest := by
  have henclosed : enclosed? (op.toList ++ rest) = none := by
    obtain ⟨c, more, htext, -, hc⟩ := exists_cons_of_mem_operators op h
    rw [htext, List.cons_append]
    exact enclosed?_of_notMem hc _
  have hfind :
      operators.find? (fun op' => op'.toList.isPrefixOf (op.toList ++ rest)) = some op := by
    cases hfound : operators.find? fun op' => op'.toList.isPrefixOf (op.toList ++ rest) with
    | none =>
        have hnone := List.find?_eq_none.mp hfound op h
        exact absurd (List.isPrefixOf_iff_prefix.mpr (List.prefix_append _ _)) hnone
    | some op' =>
        have hmem := List.mem_of_find?_eq_some hfound
        have hbegins : op'.toList.isPrefixOf (op.toList ++ rest) := by
          simpa using List.find?_some hfound
        have hbegins := List.isPrefixOf_iff_prefix.mp hbegins
        rcases List.prefix_or_prefix_of_prefix hbegins (List.prefix_append op.toList rest)
          with hshort | hlong
        · rw [eq_of_isPrefixOf_operators op' hmem op h (List.isPrefixOf_iff_prefix.mpr hshort)]
        · rw [eq_of_isPrefixOf_operators op h op' hmem (List.isPrefixOf_iff_prefix.mpr hlong)]
  rw [Stands, atStart?, henclosed, operator?, hfind, String.length_toList]
  rfl

theorem signs_apart : ∀ c ∈ signs, isIdentStart c = false ∧ isDecimalDigit c = false ∧ c ≠ '\n' ∧
    isBlank c = false ∧ c ∉ ['\x60', '"', '\''] :=
  List.all_iff_forall_prop.mp (by decide +kernel)

theorem two_le_length_operators : ∀ op ∈ operators, 2 ≤ op.toList.length := by
  decide

theorem simple?_of_mem_signs {c : Char} (h : c ∈ signs) (rest : List Char) :
    simple? (c :: rest) = some ⟨1, some .punct⟩ := by
  obtain ⟨hstart, hdigit, hline, hblank, -⟩ := signs_apart c h
  rw [simple?, hstart, hdigit, hblank, if_neg Bool.false_ne_true, if_neg Bool.false_ne_true,
    if_neg hline, if_neg Bool.false_ne_true, if_pos (List.contains_iff_mem.mpr h)]

/-- A sign that begins a longer one makes it with the next character. -/
theorem exists_joins_of_prefix {op : String} (h : op ∈ operators) {c : Char}
    (hbegins : op.toList <+: c :: rest) : ∃ d ∈ rest.head?, joins c d := by
  have hlength := two_le_length_operators op h
  match hop : op.toList, hlength with
  | a :: b :: more, _ =>
      rw [hop] at hbegins
      obtain ⟨rfl, hrest⟩ := List.cons_prefix_cons.mp hbegins
      obtain ⟨tail, rfl⟩ := hrest
      refine ⟨b, rfl, ?_⟩
      have hjoins : operators.any fun op => [a, b].isPrefixOf op.toList := by
        refine List.any_eq_true.mpr ⟨op, h, List.isPrefixOf_iff_prefix.mpr ?_⟩
        rw [hop]
        exact List.prefix_append [a, b] more
      rw [joins, hjoins]
      rfl

theorem joins_eq_false {c : Char} (h : c ∉ specialStarts) (d : Char) : joins c d = false := by
  have hoperators : (operators.any fun op => [c, d].isPrefixOf op.toList) = false := by
    refine List.any_eq_false.mpr fun op hop hbegins => ?_
    obtain ⟨e, more, htext, he, -⟩ := exists_cons_of_mem_operators op hop
    have hbegins := List.isPrefixOf_iff_prefix.mp hbegins
    rw [htext] at hbegins
    obtain ⟨rfl, -⟩ := List.cons_prefix_cons.mp hbegins
    exact h he
  have hslash : c ≠ '/' := by
    rintro rfl
    exact h (by decide)
  have hpoint : c ≠ '.' := by
    rintro rfl
    exact h (by decide)
  rw [joins, hoperators, beq_false_of_ne hslash, beq_false_of_ne hpoint]
  rfl

/-- A sign stands by itself unless it makes something longer with the next character. -/
theorem stands_lone_sign {c : Char} (h : c ∈ signs) (hrest : ∀ d ∈ rest.head?, joins c d = false) :
    Stands (some .punct) [c] rest := by
  obtain ⟨-, -, -, -, hmark⟩ := signs_apart c h
  have henclosed : enclosed? (c :: rest) = none := by
    unfold enclosed?
    split <;> simp_all [joins]
  have hoperator : operator? (c :: rest) = none := by
    rw [operator?, Option.map_eq_none_iff, List.find?_eq_none]
    intro op hop hbegins
    obtain ⟨d, hd, hjoins⟩ :=
      exists_joins_of_prefix hop (List.isPrefixOf_iff_prefix.mp hbegins)
    rw [hrest d hd] at hjoins
    cases hjoins
  have hpoint : pointNumber? (c :: rest) = none := by
    unfold pointNumber?
    split <;> simp_all [joins]
  rw [Stands, List.singleton_append, atStart?, henclosed, hoperator, hpoint,
    simple?_of_mem_signs h]
  rfl

theorem stands_digits {c : Char} {more : List Char} (hstart : isDecimalDigit c)
    (hmore : ∀ d ∈ more, isNumberPart d || d == '.')
    (hrest : ∀ d ∈ rest.head?, (isNumberPart d || d == '.') = false) :
    Stands (some (if c.isDigit then .number else .punct)) (c :: more) rest := by
  obtain ⟨hspecial, hident⟩ := digit_apart hstart
  rw [Stands, List.cons_append, atStart?_of_notMem hspecial, simple?, hident,
    if_neg Bool.false_ne_true, if_pos hstart, run_append hmore hrest]
  rfl

theorem stands_fraction {c : Char} {more : List Char} (hstart : isDecimalDigit c)
    (hmore : ∀ d ∈ more, isNumberPart d) (hrest : ∀ d ∈ rest.head?, isNumberPart d = false) :
    Stands (some .number) ('.' :: c :: more) rest := by
  have hpoint : c ≠ '.' := by
    rintro rfl
    exact absurd hstart (by decide +kernel)
  have hoperator : operator? ('.' :: c :: (more ++ rest)) = none := by
    simp [operator?, operators, List.isPrefixOf, hpoint.symm]
  rw [Stands, List.cons_append, List.cons_append, atStart?, hoperator, pointNumber?, if_pos hstart,
    run_append hmore hrest]
  rfl

theorem Form.exists_cons {kind? : Option Token.Kind} (h : Form kind? s) :
    ∃ c more, s = c :: more := by
  refine List.exists_cons_of_ne_nil fun hnil => ?_
  have hsome := isSome_atStart?_of_form h []
  rw [hnil, List.append_nil, atStart?_nil] at hsome
  cases hsome

/-- **A token is found in front of what it does not take.** -/
theorem Form.stands {kind : Token.Kind} (h : Form (some kind) s) (hcomment : kind ≠ .comment)
    (hrest : ∀ d ∈ rest.head?, takes kind s d = false) : Stands (some kind) s rest := by
  cases h with
  | lineComment => exact absurd rfl hcomment
  | rawString h =>
      rw [Stands, List.cons_append, List.append_assoc, List.singleton_append, atStart?, enclosed?,
        rawEnd?_append h]
      simp
  | string h => exact stands_literal (.inl rfl) h rest
  | rune h => exact stands_literal (.inr rfl) h rest
  | operator h => exact stands_operator h rest
  | @word c more hstart hmore =>
      rw [Stands, List.cons_append,
        atStart?_of_notMem (notMem_specialStarts_of_isIdentStart hstart), simple?, if_pos hstart,
        run_append hmore hrest]
      rfl
  | @number c more hstart hmore =>
      have hpoint : c ≠ '.' := by
        rintro rfl
        exact absurd hstart (by decide +kernel)
      refine stands_digits hstart hmore fun d hd => ?_
      have htakes := hrest d hd
      cases hdigit : c.isDigit with
      | true =>
          rw [hdigit, if_pos rfl, takes.eq_3 _ _ (by simpa using hpoint)] at htakes
          exact htakes
      | false =>
          rw [hdigit, if_neg Bool.false_ne_true, takes, if_pos hstart] at htakes
          exact htakes
  | fraction hstart hmore => exact stands_fraction hstart hmore hrest
  | newline => exact stands_lineEnd rest
  | @sign c h =>
      refine stands_lone_sign h fun d hd => ?_
      have htakes := hrest d hd
      rwa [takes, if_neg (Bool.eq_false_iff.mp (signs_apart c h).2.1)] at htakes

end Lexeme

end GoSchema.Go
