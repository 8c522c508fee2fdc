import GoSchema.Proofs.Text.Lines
import GoSchema.Schema.Emit

/-!
# The layout of documents

A document is written line by line, so its text is that of its lines, one after the other.  The
lines of a comment are filled with the words of its text.
-/

namespace GoSchema.Schema

open Text

/-! ## The text of lines -/

namespace Line

/-- The text of some lines. -/
def text (ls : List Line) : List Char := ls.flatMap fun line => line.render.toList

@[simp] theorem text_nil : text [] = [] := rfl

@[simp] theorem text_cons (line : Line) (ls : List Line) :
    text (line :: ls) = line.render.toList ++ text ls := rfl

@[simp] theorem text_append (first rest : List Line) :
    text (first ++ rest) = text first ++ text rest := List.flatMap_append

end Line

theorem Document.toList_render (doc : Document) : doc.render.toList = Line.text doc.lines := by
  rw [render, String.toList_join, List.flatMap_map]
  rfl

/-! ## The words of comments -/

namespace Comment

/-- A line is filled with the words that come next. -/
theorem fillLine_append (width used : Nat) (words : List (List Char)) :
    (fillLine width used words).1 ++ (fillLine width used words).2 = words := by
  induction words generalizing used with
  | nil => rfl
  | cons word rest ih =>
      unfold fillLine
      split
      · rfl
      · exact congrArg (word :: ·) (ih _)

/-- Lines are filled with the words that there are, in their order. -/
theorem flatten_wrap (width : Nat) (words : List (List Char)) :
    (wrap width words).flatten = words := by
  fun_induction wrap width words with
  | case1 => rfl
  | case2 word rest hshorter filled ih =>
      rw [List.flatten_cons, ih, List.cons_append, fillLine_append]

/-- The lines of a documentation text, without the white space around it. -/
def paragraphs (docs : String) : List (List Char) :=
  match trim docs.toList with
  | [] => []
  | text => text.splitOn '\n'

/-- The lines that a line of documentation is wrapped into. -/
def group (depth : Nat) (paragraph : List Char) : List (List (List Char)) :=
  match words paragraph with
  | [] => [[]]
  | words => wrap (lineWidth depth) words

theorem lines_eq_flatMap (docs : String) (depth : Nat) :
    lines docs depth = (paragraphs docs).flatMap (group depth) := by
  rw [lines, paragraphs]
  cases trim docs.toList with
  | nil => rfl
  | cons c rest => rfl

theorem group_of_blank (depth : Nat) {paragraph : List Char} (h : words paragraph = []) :
    group depth paragraph = [[]] := by
  rw [group, h]

theorem group_eq_wrap (depth : Nat) {paragraph : List Char} (h : words paragraph ≠ []) :
    group depth paragraph = wrap (lineWidth depth) (words paragraph) := by
  unfold group
  split
  · contradiction
  · rfl

theorem flatten_group (depth : Nat) (paragraph : List Char) :
    (group depth paragraph).flatten = words paragraph := by
  by_cases h : words paragraph = []
  · rw [group_of_blank depth h, h]
    rfl
  · rw [group_eq_wrap depth h, flatten_wrap]

/-- No line end gets into a comment. -/
theorem newline_notMem_of_mem_lines {docs : String} {depth : Nat} {line : List (List Char)}
    (hline : line ∈ lines docs depth) {word : List Char} (hword : word ∈ line) :
    '\n' ∉ word := by
  rw [lines_eq_flatMap] at hline
  obtain ⟨paragraph, -, hline⟩ := List.mem_flatMap.mp hline
  have hsource : word ∈ words paragraph := by
    rw [← flatten_group depth paragraph]
    exact List.mem_flatten.mpr ⟨line, hline, hword⟩
  exact newline_notMem_of_mem_words hsource

end Comment

end GoSchema.Schema
