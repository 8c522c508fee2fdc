import GoSchema.Text.Trim
import Mathlib.Data.List.Basic

/-!
# Lines and words

A text is a sequence of lines, and a reader of source text skips those that are blank or hold
nothing but a comment.  What is left are the lines of code.  They can be told part by part, as long
as the parts meet at the end of a line (`codeLines_append`).

Words hold no white space.  So whatever stands in a text, a line that is put together from its words
is one line.
-/

namespace GoSchema.Text

/-! ## Lines of code -/

/-- Whether a line is neither blank nor a comment. -/
def isCode (line : List Char) : Bool :=
  match line.dropWhile isWhite with
  | [] => false
  | '/' :: '/' :: _ => false
  | _ => true

/-- The lines of a text that are neither blank nor comments. -/
def codeLines (s : List Char) : List (List Char) := (s.splitOn '\n').filter isCode

/-- A text without its lines that are blank or comments. -/
def uncommented (s : String) : String :=
  String.ofList ((codeLines s.toList).flatMap fun line => line ++ ['\n'])

theorem splitOn_append_cons (sep : Char) (first rest : List Char) :
    (first ++ sep :: rest).splitOn sep = first.splitOn sep ++ rest.splitOn sep :=
  List.splitOnP_append_cons first rest (beq_self_eq_true sep)

theorem codeLines_append (first rest : List Char) :
    codeLines (first ++ '\n' :: rest) = codeLines first ++ codeLines rest := by
  rw [codeLines, splitOn_append_cons, List.filter_append]
  rfl

/-- A text without line ends is one line. -/
theorem splitOn_eq_singleton {line : List Char} (h : '\n' ∉ line) : line.splitOn '\n' = [line] := by
  rw [List.splitOn_eq_splitOnP]
  refine List.splitOnP_eq_singleton fun c hc => beq_eq_false_iff_ne.mpr ?_
  rintro rfl
  exact h hc

/-- The lines of a text whose lines all end, the last one too. -/
theorem splitOn_flatMap_lineEnd {ls : List (List Char)} (h : ∀ line ∈ ls, '\n' ∉ line) :
    (ls.flatMap (· ++ ['\n'])).splitOn '\n' = ls ++ [[]] := by
  induction ls with
  | nil => rfl
  | cons line rest ih =>
      obtain ⟨hline, hrest⟩ := List.forall_mem_cons.mp h
      rw [List.flatMap_cons, List.append_assoc, List.cons_append, List.nil_append,
        splitOn_append_cons, splitOn_eq_singleton hline, ih hrest]
      rfl

/-- A single line that does not count. -/
theorem codeLines_eq_nil {line : List Char} (hline : '\n' ∉ line) (h : isCode line = false) :
    codeLines line = [] := by
  rw [codeLines, splitOn_eq_singleton hline]
  simp [h]

/-! ## Putting parts together -/

theorem intercalate_cons {α : Type} (sep : α) (first : List α) (rest : List (List α)) :
    [sep].intercalate (first :: rest) = first ++ rest.flatMap (sep :: ·) := by
  induction rest generalizing first with
  | nil => simp
  | cons second rest ih => rw [List.intercalate_cons_cons, ih]; simp

/-! ## Words -/

theorem not_of_mem_splitOnP {α : Type} {p : α → Bool} {s part : List α} (h : part ∈ s.splitOnP p)
    {x : α} (hx : x ∈ part) : p x = false := by
  induction s generalizing part with
  | nil => simp_all
  | cons y rest ih =>
      rw [List.splitOnP_cons_eq_if_modifyHead] at h
      by_cases hy : p y
      · rw [if_pos hy] at h
        rcases List.mem_cons.mp h with rfl | h
        · cases hx
        · exact ih h hx
      · rw [if_neg hy] at h
        cases hparts : rest.splitOnP p with
        | nil => simp [hparts] at h
        | cons first parts =>
            rw [hparts] at ih
            rw [hparts, List.modifyHead_cons] at h
            rcases List.mem_cons.mp h with rfl | h
            · rcases List.mem_cons.mp hx with rfl | hx
              · simpa using hy
              · exact ih List.mem_cons_self hx
            · exact ih (List.mem_cons_of_mem _ h) hx

theorem words_cons_of_isWhite {c : Char} (hc : isWhite c) (rest : List Char) :
    words (c :: rest) = words rest := by
  rw [words, List.splitOnP_cons_eq_if_modifyHead, if_pos hc]
  rfl

theorem words_cons_ne_nil {c : Char} (hc : ¬isWhite c) (rest : List Char) :
    words (c :: rest) ≠ [] := by
  rw [words, List.splitOnP_cons_eq_if_modifyHead, if_neg hc]
  cases hparts : rest.splitOnP isWhite with
  | nil => exact absurd hparts (List.splitOnP_ne_nil _ _)
  | cons first parts => simp

/-- A text holds no words exactly if it is blank. -/
theorem words_eq_nil_iff {s : List Char} : words s = [] ↔ ∀ c ∈ s, isWhite c := by
  induction s with
  | nil => exact iff_of_true rfl nofun
  | cons c rest ih =>
      rw [List.forall_mem_cons]
      by_cases hc : isWhite c
      · rw [words_cons_of_isWhite hc, ih]
        exact (and_iff_right hc).symm
      · exact iff_of_false (words_cons_ne_nil hc rest) fun h => hc h.1

theorem isWhite_of_mem_words {s word : List Char} (h : word ∈ words s) {c : Char} (hc : c ∈ word) :
    isWhite c = false :=
  not_of_mem_splitOnP (List.mem_filter.mp h).1 hc

/-- A word stands on one line. -/
theorem newline_notMem_of_mem_words {s word : List Char} (h : word ∈ words s) : '\n' ∉ word := by
  intro hmem
  have hwhite := isWhite_of_mem_words h hmem
  exact absurd hwhite (by decide)

end GoSchema.Text
