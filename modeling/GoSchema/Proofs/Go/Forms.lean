import GoSchema.Go.Token.Scanner
import Mathlib.Data.List.Infix
import Mathlib.Data.List.TakeWhile

/-!
# The forms of lexemes

A lexeme is a comment, a literal, a word, a number, a sign, a line end or a run of blanks.  `Form`
says of each of these which texts have it, apart from how scanning finds them.  Scanning and forms
belong together in both directions.  The lexeme at the beginning of a text has a form
(`exists_found_of_atStart?`), and where any beginning of a text has one, a lexeme is found
(`isSome_atStart?_of_form`).  So nothing is found exactly where no form fits
(`atStart?_eq_none_iff`).

Which lexeme is found where several forms fit is not settled by the forms but by their order, and by
their taking as much as they can; `Stands` is about that lexeme.
-/

namespace GoSchema.Go.Lexeme

open Text

/-! ## Forms -/

/-- What is between the marks of a string or a rune: characters of the line that are neither the
mark nor a backslash, and backslashes with another character of the line. -/
inductive LiteralBody (mark : Char) : List Char → Prop
  | nil : LiteralBody mark []
  | plain {c : Char} {s : List Char} (hmark : c ≠ mark) (hline : c ≠ '\n') (hescape : c ≠ '\\')
      (rest : LiteralBody mark s) : LiteralBody mark (c :: s)
  | escaped {c : Char} {s : List Char} (hline : c ≠ '\n') (rest : LiteralBody mark s) :
      LiteralBody mark ('\\' :: c :: s)

/-- What is between the marks of a block comment does not hold the closing mark. -/
def BlockBody (body : List Char) : Prop := ¬['*', '/'] <:+: body

/-- The texts of lexemes, with the kind of token that each makes, if it makes one. -/
inductive Form : Option Token.Kind → List Char → Prop
  | lineComment {body : List Char} (h : '\n' ∉ body) : Form (some .comment) ('/' :: '/' :: body)
  | blockComment {body : List Char} (h : BlockBody body) :
      Form none ('/' :: '*' :: (body ++ ['*', '/']))
  | rawString {body : List Char} (h : '\x60' ∉ body) :
      Form (some .str) ('\x60' :: (body ++ ['\x60']))
  | string {body : List Char} (h : LiteralBody '"' body) : Form (some .str) ('"' :: (body ++ ['"']))
  | rune {body : List Char} (h : LiteralBody '\'' body) :
      Form (some .str) ('\'' :: (body ++ ['\'']))
  | operator {op : String} (h : op ∈ operators) : Form (some .punct) op.toList
  | word {c : Char} {rest : List Char} (hstart : isIdentStart c)
      (hrest : ∀ d ∈ rest, isIdentPart d) : Form (some .ident) (c :: rest)
  | number {c : Char} {rest : List Char} (hstart : isDecimalDigit c)
      (hrest : ∀ d ∈ rest, isNumberPart d || d == '.') :
      Form (some (if c.isDigit then .number else .punct)) (c :: rest)
  | fraction {c : Char} {rest : List Char} (hstart : isDecimalDigit c)
      (hrest : ∀ d ∈ rest, isNumberPart d) : Form (some .number) ('.' :: c :: rest)
  | newline : Form (some .newline) ['\n']
  | blanks {s : List Char} (hne : s ≠ []) (h : ∀ c ∈ s, isBlank c) : Form none s
  | sign {c : Char} (h : c ∈ signs) : Form (some .punct) [c]

/-! ## Closing marks -/

theorem eq_append_of_blockEnd? {s : List Char} {n : Nat} (h : blockEnd? s = some n) :
    ∃ body rest, s = body ++ '*' :: '/' :: rest ∧ n = body.length + 2 ∧ BlockBody body := by
  fun_induction blockEnd? s generalizing n with
  | case1 => cases h
  | case2 rest =>
      cases h
      exact ⟨[], rest, rfl, rfl, by simp [BlockBody]⟩
  | case3 c s hmark ih =>
      obtain ⟨m, hm, rfl⟩ := Option.map_eq_some_iff.mp h
      obtain ⟨body, rest, rfl, rfl, hbody⟩ := ih hm
      refine ⟨c :: body, rest, rfl, rfl, ?_⟩
      -- the mark does not stand across the first character either
      rintro hinfix
      rcases List.infix_cons_iff.mp hinfix with hfirst | hinfix
      · obtain ⟨hc, hslash⟩ := List.cons_prefix_cons.mp hfirst
        obtain ⟨more, rfl⟩ := hslash
        exact hmark (more ++ '*' :: '/' :: rest) hc.symm rfl
      · exact hbody hinfix

theorem isSome_blockEnd? (body rest : List Char) :
    (blockEnd? (body ++ '*' :: '/' :: rest)).isSome := by
  induction body with
  | nil => rfl
  | cons c body ih =>
      rw [List.cons_append, blockEnd?.eq_def]
      split
      · contradiction
      · rfl
      · next heq =>
        cases heq
        rw [Option.isSome_map]
        exact ih

theorem eq_append_of_rawEnd? {s : List Char} {n : Nat} (h : rawEnd? s = some n) :
    ∃ body rest, s = body ++ '\x60' :: rest ∧ n = body.length + 1 ∧ '\x60' ∉ body := by
  fun_induction rawEnd? s generalizing n with
  | case1 => cases h
  | case2 rest =>
      cases h
      exact ⟨[], rest, rfl, rfl, List.not_mem_nil⟩
  | case3 c s hmark ih =>
      obtain ⟨m, hm, rfl⟩ := Option.map_eq_some_iff.mp h
      obtain ⟨body, rest, rfl, rfl, hbody⟩ := ih hm
      refine ⟨c :: body, rest, rfl, rfl, ?_⟩
      rw [List.mem_cons, not_or]
      exact ⟨fun heq => hmark heq.symm, hbody⟩

theorem rawEnd?_append {body : List Char} (h : '\x60' ∉ body) (rest : List Char) :
    rawEnd? (body ++ '\x60' :: rest) = some (body.length + 1) := by
  induction body with
  | nil => rfl
  | cons c body ih =>
      obtain ⟨hc, hbody⟩ := not_or.mp (List.mem_cons.not.mp h)
      rw [List.cons_append, rawEnd?.eq_3 _ _ fun heq => hc heq.symm, ih hbody]
      rfl

theorem eq_append_of_literalEnd? {mark : Char} {s : List Char} {n : Nat}
    (h : literalEnd? mark s = some n) :
    ∃ body rest, s = body ++ mark :: rest ∧ n = body.length + 1 ∧ LiteralBody mark body := by
  fun_induction literalEnd? mark s generalizing n with
  | case1 | case2 | case5 => cases h
  | case3 c s hline ih =>
      obtain ⟨m, hm, rfl⟩ := Option.map_eq_some_iff.mp h
      obtain ⟨body, rest, rfl, rfl, hbody⟩ := ih hm
      exact ⟨_, rest, rfl, rfl, .escaped hline hbody⟩
  | case4 s =>
      cases h
      exact ⟨[], s, rfl, rfl, .nil⟩
  | case6 c s hescape hmark hplain ih =>
      obtain ⟨hline, hbackslash⟩ := not_or.mp hplain
      obtain ⟨m, hm, rfl⟩ := Option.map_eq_some_iff.mp h
      obtain ⟨body, rest, rfl, rfl, hbody⟩ := ih hm
      exact ⟨_, rest, rfl, rfl, .plain hmark hline hbackslash hbody⟩

theorem literalEnd?_append {mark : Char} (hmark : mark ≠ '\\') {body : List Char}
    (h : LiteralBody mark body) (rest : List Char) :
    literalEnd? mark (body ++ mark :: rest) = some (body.length + 1) := by
  induction h with
  | nil =>
      rw [List.nil_append, literalEnd?.eq_3 _ _ _ fun _ _ h => absurd h hmark, if_pos rfl]
      rfl
  | plain hne hline hescape _ ih =>
      rw [List.cons_append, literalEnd?.eq_3 _ _ _ fun _ _ h => absurd h hescape, if_neg hne,
        if_neg (not_or.mpr ⟨hline, hescape⟩), ih]
      rfl
  | escaped hline _ ih =>
      rw [List.cons_append, List.cons_append, literalEnd?.eq_2, if_neg hline, ih]
      rfl

/-! ## What is found has a form -/

/-- A text that takes one more character than the longest beginning which passes a test. -/
theorem eq_append_of_run (p : Char → Bool) (c : Char) (s : List Char) :
    ∃ taken rest, c :: s = (c :: taken) ++ rest ∧ (c :: taken).length = run p s + 1 ∧
      ∀ d ∈ taken, p d :=
  ⟨s.takeWhile p, s.dropWhile p, by simp, rfl, fun _ hd => List.mem_takeWhile_imp hd⟩

/-- A lexeme takes the beginning of a text, which has the form of its kind, and leaves the rest. -/
structure Found (s : List Char) (l : Lexeme) (taken rest : List Char) : Prop where
  text : s = taken ++ rest
  size : taken.length = l.size
  form : Form l.kind? taken

theorem exists_found_of_enclosed? {s : List Char} {l : Lexeme} (h : enclosed? s = some l) :
    ∃ taken rest, Found s l taken rest := by
  unfold enclosed? at h
  split at h
  · next s =>
    cases h
    refine ⟨'/' :: '/' :: s.takeWhile (· != '\n'), s.dropWhile (· != '\n'), by simp, rfl, ?_⟩
    refine .lineComment fun hmem => ?_
    simpa using List.mem_takeWhile_imp hmem
  · obtain ⟨n, hn, rfl⟩ := Option.map_eq_some_iff.mp h
    obtain ⟨body, rest, rfl, rfl, hbody⟩ := eq_append_of_blockEnd? hn
    exact ⟨_, rest, by simp, by simp, .blockComment hbody⟩
  · obtain ⟨n, hn, rfl⟩ := Option.map_eq_some_iff.mp h
    obtain ⟨body, rest, rfl, rfl, hbody⟩ := eq_append_of_rawEnd? hn
    exact ⟨_, rest, by simp, by simp, .rawString hbody⟩
  · obtain ⟨n, hn, rfl⟩ := Option.map_eq_some_iff.mp h
    obtain ⟨body, rest, rfl, rfl, hbody⟩ := eq_append_of_literalEnd? hn
    exact ⟨_, rest, by simp, by simp, .string hbody⟩
  · obtain ⟨n, hn, rfl⟩ := Option.map_eq_some_iff.mp h
    obtain ⟨body, rest, rfl, rfl, hbody⟩ := eq_append_of_literalEnd? hn
    exact ⟨_, rest, by simp, by simp, .rune hbody⟩
  · cases h

theorem exists_found_of_operator? {s : List Char} {l : Lexeme} (h : operator? s = some l) :
    ∃ taken rest, Found s l taken rest := by
  obtain ⟨op, hop, rfl⟩ := Option.map_eq_some_iff.mp h
  have hprefix : op.toList.isPrefixOf s := by simpa using List.find?_some hop
  obtain ⟨rest, rfl⟩ := List.isPrefixOf_iff_prefix.mp hprefix
  exact ⟨_, rest, rfl, String.length_toList, .operator (List.mem_of_find?_eq_some hop)⟩

theorem exists_found_of_pointNumber? {s : List Char} {l : Lexeme} (h : pointNumber? s = some l) :
    ∃ taken rest, Found s l taken rest := by
  unfold pointNumber? at h
  split at h
  · next c s =>
    split at h
    · next hdigit =>
      cases h
      obtain ⟨taken, rest, htext, hsize, htaken⟩ := eq_append_of_run isNumberPart c s
      refine ⟨'.' :: c :: taken, rest, congrArg ('.' :: ·) htext, ?_, .fraction hdigit htaken⟩
      exact congrArg (· + 1) hsize
    · cases h
  · cases h

theorem exists_found_of_simple? {s : List Char} {l : Lexeme} (h : simple? s = some l) :
    ∃ taken rest, Found s l taken rest := by
  unfold simple? at h
  split at h
  · cases h
  · next c s =>
    split at h
    · next hstart =>
      cases h
      obtain ⟨taken, rest, htext, hsize, htaken⟩ := eq_append_of_run isIdentPart c s
      exact ⟨_, rest, htext, hsize, .word hstart htaken⟩
    · split at h
      · next hdigit =>
        cases h
        obtain ⟨taken, rest, htext, hsize, htaken⟩ :=
          eq_append_of_run (fun c => isNumberPart c || c == '.') c s
        exact ⟨_, rest, htext, hsize, .number hdigit htaken⟩
      · split at h
        · next hline =>
          cases h
          cases hline
          exact ⟨['\n'], s, rfl, rfl, .newline⟩
        · split at h
          · next hblank =>
            cases h
            obtain ⟨taken, rest, htext, hsize, htaken⟩ := eq_append_of_run isBlank c s
            exact ⟨_, rest, htext, hsize,
              .blanks (List.cons_ne_nil _ _) (List.forall_mem_cons.mpr ⟨hblank, htaken⟩)⟩
          · split at h
            · next hsign =>
              cases h
              exact ⟨[c], s, rfl, rfl, .sign (List.contains_iff_mem.mp hsign)⟩
            · cases h

/-- The lexeme that is found at the beginning of a text has a form. -/
theorem exists_found_of_atStart? {s : List Char} {l : Lexeme} (h : atStart? s = some l) :
    ∃ taken rest, Found s l taken rest := by
  simp only [atStart?, Option.or_eq_some_iff] at h
  rcases h with h | ⟨-, h | ⟨-, h | ⟨-, h⟩⟩⟩
  · exact exists_found_of_enclosed? h
  · exact exists_found_of_operator? h
  · exact exists_found_of_pointNumber? h
  · exact exists_found_of_simple? h

/-! ## Where a form fits something is found -/

theorem isSome_atStart?_of_enclosed? {s : List Char} (h : (enclosed? s).isSome) :
    (atStart? s).isSome := by
  simp [atStart?, h]

theorem isSome_atStart?_of_simple? {s : List Char} (h : (simple? s).isSome) :
    (atStart? s).isSome := by
  simp [atStart?, h]

/-- Where a beginning of a text has a form, a lexeme is found. -/
theorem isSome_atStart?_of_form {kind? : Option Token.Kind} {taken : List Char}
    (h : Form kind? taken) (rest : List Char) : (atStart? (taken ++ rest)).isSome := by
  cases h with
  | lineComment => exact isSome_atStart?_of_enclosed? rfl
  | @blockComment body =>
      refine isSome_atStart?_of_enclosed? ?_
      simpa [enclosed?] using isSome_blockEnd? body rest
  | @rawString body h =>
      refine isSome_atStart?_of_enclosed? ?_
      simp [enclosed?, rawEnd?_append h]
  | string h =>
      refine isSome_atStart?_of_enclosed? ?_
      simp [enclosed?, literalEnd?_append (by decide) h]
  | rune h =>
      refine isSome_atStart?_of_enclosed? ?_
      simp [enclosed?, literalEnd?_append (by decide) h]
  | @operator op h =>
      have hfind : (operator? (op.toList ++ rest)).isSome := by
        rw [operator?, Option.isSome_map, List.find?_isSome]
        exact ⟨op, h, List.isPrefixOf_iff_prefix.mpr (List.prefix_append _ _)⟩
      simp [atStart?, hfind]
  | word hstart =>
      refine isSome_atStart?_of_simple? ?_
      simp [simple?, hstart]
  | number hstart =>
      refine isSome_atStart?_of_simple? ?_
      simp only [List.cons_append, simple?, hstart]
      grind
  | fraction hstart => simp [atStart?, pointNumber?, hstart]
  | newline =>
      refine isSome_atStart?_of_simple? ?_
      simp only [List.cons_append, simple?]
      grind
  | blanks hne h =>
      refine isSome_atStart?_of_simple? ?_
      cases taken with
      | nil => exact absurd rfl hne
      | cons c s =>
          have hc : isBlank c := h c List.mem_cons_self
          simp only [List.cons_append, simple?, hc]
          grind
  | @sign c h =>
      refine isSome_atStart?_of_simple? ?_
      have hc : signs.contains c := List.contains_iff_mem.mpr h
      simp only [List.cons_append, simple?, hc]
      grind

/-- Some form fits at the beginning of a text. -/
def FormFits (s : List Char) : Prop := ∃ kind? taken, taken <+: s ∧ Form kind? taken

/-- Nothing is found exactly where no form fits. -/
theorem atStart?_eq_none_iff {s : List Char} : atStart? s = none ↔ ¬FormFits s := by
  constructor
  · rintro hnone ⟨kind?, taken, ⟨rest, rfl⟩, hform⟩
    have hsome := isSome_atStart?_of_form hform rest
    rw [hnone] at hsome
    cases hsome
  · intro hforms
    by_contra hsome
    obtain ⟨l, hl⟩ := Option.ne_none_iff_exists'.mp hsome
    obtain ⟨taken, rest, htext, -, hform⟩ := exists_found_of_atStart? hl
    exact hforms ⟨l.kind?, taken, ⟨rest, htext.symm⟩, hform⟩

/-! ## The lexeme at a place -/

/-- At the beginning of `taken ++ rest` the lexeme of a kind is found that takes `taken`. -/
def Stands (kind? : Option Token.Kind) (taken rest : List Char) : Prop :=
  atStart? (taken ++ rest) = some ⟨taken.length, kind?⟩

theorem Stands.form {kind? : Option Token.Kind} {taken rest : List Char}
    (h : Stands kind? taken rest) : Form kind? taken := by
  obtain ⟨taken', rest', htext, hsize, hform⟩ := exists_found_of_atStart? h
  obtain ⟨rfl, -⟩ := List.append_inj htext hsize.symm
  exact hform

/-- Whatever is found stands where it is found, and leaves less than there was. -/
theorem exists_stands_of_atStart? {s : List Char} {l : Lexeme} (h : atStart? s = some l) :
    ∃ taken rest, s = taken ++ rest ∧ rest.length < s.length ∧ Stands l.kind? taken rest := by
  obtain ⟨taken, rest, rfl, hsize, -⟩ := exists_found_of_atStart? h
  refine ⟨taken, rest, rfl, ?_, ?_⟩
  · have hpos := size_pos h
    rw [List.length_append]
    omega
  · rw [Stands, h, hsize]

end GoSchema.Go.Lexeme
