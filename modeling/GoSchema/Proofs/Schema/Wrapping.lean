import GoSchema.Proofs.Schema.Layout
import Mathlib.Data.List.Chain
import Mathlib.Data.List.Forall2

/-!
# Wrapped comments

Documentation is written as a comment, in which each of its lines is spread over as many lines as
it needs.  Nothing but the white space between the words of the documentation gets lost.  No line of
the comment goes beyond the eightieth byte unless it holds a single word, and none ends before it
has to (`splitOn_text_comments`).

## Strategy

A line is filled by counting the bytes that its words take up, each of them with one blank.  `room`
is that count, and both bounds are about it: what is on a line leaves it within its width
(`room_fillLine`), and what comes next would not (`lt_room_fillLine`).  The text of a line has the
indentation and two slashes in front of that (`lineBytes_eq`), and for the two levels of indentation
that documents have, the width is what is left of eighty bytes (`lineWidth_eq`).
-/

namespace GoSchema.Schema.Comment

open Text

/-! ## The statement -/

/-- A line of a comment: two slashes after the indentation, and one blank in front of each word. -/
def lineText (depth : Nat) (words : List (List Char)) : List Char :=
  List.replicate (2 * depth) ' ' ++ '/' :: '/' :: words.flatMap (' ' :: ·)

/-- The bytes that a line of a comment takes up. -/
def lineBytes (depth : Nat) (words : List (List Char)) : Nat :=
  (String.ofList (lineText depth words)).utf8ByteSize

/-- Whether lines of words are what a line of documentation is wrapped into. -/
structure Filled (depth : Nat) (paragraph : List Char) (ls : List (List (List Char))) : Prop where
  /-- All words are there, in their order. -/
  flatten_eq : ls.flatten = words paragraph
  blank : (∀ c ∈ paragraph, isWhite c) → ls = [[]]
  nonempty : ¬(∀ c ∈ paragraph, isWhite c) → [] ∉ ls
  /-- Only a word that is too long for any line makes a line too long. -/
  bounded : ∀ line ∈ ls, line.length = 1 ∨ lineBytes depth line ≤ 80
  /-- A line is followed by another one only if the first word of that would be too much for it. -/
  greedy : ls.IsChain fun line next =>
    ∀ word ∈ next.head?, 80 < lineBytes depth (line ++ [word])

/-! ## The bytes of a line -/

theorem utf8ByteSize_ofList (cs : List Char) : (String.ofList cs).utf8ByteSize = size cs := by
  induction cs with
  | nil => rfl
  | cons c rest ih =>
      have hcons : String.ofList (c :: rest) = String.singleton c ++ String.ofList rest := by
        rw [String.singleton_eq_ofList, ← String.ofList_append]
        rfl
      rw [hcons, String.utf8ByteSize_append, String.utf8ByteSize_singleton, ih]
      rfl

theorem size_append (first rest : List Char) : size (first ++ rest) = size first + size rest := by
  simp [← utf8ByteSize_ofList, String.ofList_append]

/-- The bytes that words take up on a line, each with the blank in front of it. -/
def room : List (List Char) → Nat
  | [] => 0
  | word :: line => 1 + size word + room line

@[simp] theorem room_nil : room [] = 0 := rfl

@[simp] theorem room_cons (word : List Char) (line : List (List Char)) :
    room (word :: line) = 1 + size word + room line := rfl

theorem size_flatMap (line : List (List Char)) : size (line.flatMap (' ' :: ·)) = room line := by
  induction line with
  | nil => rfl
  | cons word rest ih => rw [List.flatMap_cons, size_append, ih]; rfl

theorem size_replicate_blank (n : Nat) : size (List.replicate n ' ') = n := by
  induction n with
  | zero => rfl
  | succ n ih => rw [List.replicate_succ']; simp [size_append, ih]; rfl

theorem lineBytes_eq (depth : Nat) (line : List (List Char)) :
    lineBytes depth line = 2 * depth + 2 + room line := by
  rw [lineBytes, utf8ByteSize_ofList, lineText, size_append, size_replicate_blank]
  have hslashes : size ('/' :: '/' :: line.flatMap (' ' :: ·)) = 2 + room line := by
    rw [← size_flatMap]
    exact size_append ['/', '/'] _
  rw [hslashes, Nat.add_assoc]

/-! ## Filling a line -/

/-- What a line is filled with leaves it within its width. -/
theorem room_fillLine (width used : Nat) (words : List (List Char)) :
    (fillLine width used words).1 = [] ∨
      used + room (fillLine width used words).1 ≤ width := by
  induction words generalizing used with
  | nil => exact .inl rfl
  | cons word rest ih =>
      unfold fillLine
      split
      · exact .inl rfl
      · rename_i hfits
        refine .inr ?_
        have hword : used + (1 + size word) ≤ width := by omega
        rcases ih (used + 1 + size word) with hnil | hrest
        · simpa [hnil] using hword
        · rw [room_cons]
          omega

/-- What is left over would take a line beyond its width. -/
theorem lt_room_fillLine (width used : Nat) (words : List (List Char)) {next : List Char}
    (h : next ∈ (fillLine width used words).2.head?) :
    width < used + room ((fillLine width used words).1 ++ [next]) := by
  induction words generalizing used with
  | nil => cases h
  | cons word rest ih =>
      unfold fillLine at h ⊢
      split at h
      · rename_i htoo
        rw [if_pos htoo]
        cases h
        simp only [List.nil_append, room_cons, room_nil]
        omega
      · rename_i hfits
        rw [if_neg hfits]
        have hrest := ih (used + 1 + size word) h
        simp only [List.cons_append, room_cons]
        omega

/-! ## Filling lines -/

theorem head?_of_mem_head?_wrap {width : Nat} {words next : List (List Char)}
    (h : next ∈ (wrap width words).head?) : next.head? = words.head? := by
  cases words with
  | nil => simp [wrap] at h
  | cons word rest =>
      rw [wrap] at h
      cases h
      rfl

theorem nil_notMem_wrap (width : Nat) (words : List (List Char)) : [] ∉ wrap width words := by
  fun_induction wrap width words with
  | case1 => exact List.not_mem_nil
  | case2 word rest hshorter filled ih =>
      rw [List.mem_cons, not_or]
      exact ⟨(List.cons_ne_nil _ _).symm, ih⟩

/-- A line that holds more than one word is within its width. -/
theorem room_of_mem_wrap {width : Nat} {words line : List (List Char)}
    (h : line ∈ wrap width words) : line.length = 1 ∨ room line ≤ width + 1 := by
  fun_induction wrap width words with
  | case1 => cases h
  | case2 word rest hshorter filled ih =>
      rcases List.mem_cons.mp h with rfl | h
      · rcases room_fillLine width (size word) rest with hnil | hfits
        · exact .inl (by rw [hnil]; rfl)
        · refine .inr ?_
          -- the first word is there without a check, and only its blank is not counted yet
          change 1 + size word + room (fillLine width (size word) rest).1 ≤ width + 1
          omega
      · exact ih h

/-- A line ends where the next word would take it beyond its width. -/
theorem isChain_wrap (width : Nat) (words : List (List Char)) :
    (wrap width words).IsChain fun line next =>
      ∀ word ∈ next.head?, width + 1 < room (line ++ [word]) := by
  fun_induction wrap width words with
  | case1 => exact .nil
  | case2 word rest hshorter filled ih =>
      refine List.isChain_cons.mpr ⟨fun next hnext other hother => ?_, ih⟩
      rw [head?_of_mem_head?_wrap hnext] at hother
      have hfull := lt_room_fillLine width (size word) rest hother
      change width + 1 < 1 + size word + room ((fillLine width (size word) rest).1 ++ [other])
      omega

/-! ## Filling a comment -/

/-- The indentation, the slashes, a blank and the width of a line make up eighty bytes. -/
theorem lineWidth_eq {depth : Nat} (hdepth : depth ≤ 1) :
    2 * depth + 2 + (lineWidth depth + 1) = 80 := by
  obtain rfl | rfl : depth = 0 ∨ depth = 1 := by omega
  · rfl
  · rfl

theorem filled_group {depth : Nat} (hdepth : depth ≤ 1) (paragraph : List Char) :
    Filled depth paragraph (group depth paragraph) := by
  by_cases hwords : words paragraph = []
  · have hbytes : lineBytes depth [] ≤ 80 := by
      rw [lineBytes_eq, room_nil]
      omega
    rw [group_of_blank depth hwords]
    exact {
      flatten_eq := hwords.symm
      blank := fun _ => rfl
      nonempty := fun h => absurd (words_eq_nil_iff.mp hwords) h
      bounded := List.forall_mem_singleton.mpr (.inr hbytes)
      greedy := .singleton _ }
  · have hwidth := lineWidth_eq hdepth
    rw [group_eq_wrap depth hwords]
    exact {
      flatten_eq := flatten_wrap _ _
      blank := fun h => absurd (words_eq_nil_iff.mpr h) hwords
      nonempty := fun _ => nil_notMem_wrap _ _
      bounded := fun line hline => by
        refine (room_of_mem_wrap hline).imp_right fun hroom => ?_
        rw [lineBytes_eq]
        omega
      greedy := (isChain_wrap _ _).imp fun line next h word hword => by
        have hroom := h word hword
        rw [lineBytes_eq]
        omega }

/-! ## The text of a comment -/

theorem toList_render_comment (depth : Nat) (words : List (List Char)) :
    (Line.comment depth words).render.toList = lineText depth words ++ ['\n'] := by
  cases words with
  | nil => simp [Line.render, Line.indent, lineText]
  | cons word rest => simp [Line.render, Line.indent, lineText, intercalate_cons]

theorem text_comments (docs : String) (depth : Nat) :
    Line.text (Line.comments docs depth) =
      ((lines docs depth).map (lineText depth)).flatMap (· ++ ['\n']) := by
  rw [Line.text, Line.comments, List.flatMap_map, List.flatMap_map]
  exact List.flatMap_congr fun words _ => toList_render_comment depth words

theorem newline_notMem_lineText {depth : Nat} {line : List (List Char)}
    (h : ∀ word ∈ line, '\n' ∉ word) : '\n' ∉ lineText depth line := by
  simpa [lineText] using fun word hword => h word hword

/-- **Comments are wrapped without loss, within bounds and greedily.** -/
theorem splitOn_text_comments (docs : String) {depth : Nat} (hdepth : depth ≤ 1) :
    ∃ groups, List.Forall₂ (Filled depth) (paragraphs docs) groups ∧
      (Line.text (Line.comments docs depth)).splitOn '\n' =
        groups.flatten.map (lineText depth) ++ [[]] := by
  refine ⟨(paragraphs docs).map (group depth), ?_, ?_⟩
  · rw [List.forall₂_map_right_iff, List.forall₂_same]
    exact fun paragraph _ => filled_group hdepth paragraph
  · have hclosed : ∀ line ∈ (lines docs depth).map (lineText depth), '\n' ∉ line := by
      rw [List.forall_mem_map]
      exact fun line hline =>
        newline_notMem_lineText fun word hword => newline_notMem_of_mem_lines hline hword
    rw [text_comments, splitOn_flatMap_lineEnd hclosed, lines_eq_flatMap, List.flatMap_def]

/-- Words set apart in several ways, a blank line, and words that are long in bytes. -/
def centsText : List Char :=
  " In  whole\u3000cents.\r\n\r\nSee ".toList ++ List.replicate 24 '長' ++ " or ".toList ++
    List.replicate 26 '長' ++ " there.\t".toList

/-- The line with two words goes up to the eightieth byte, and the one after it goes beyond. -/
theorem splitOn_text_comments_cents : 1 ≤ 1 ∧
    lines (String.ofList centsText) 1 =
      [["In".toList, "whole".toList, "cents.".toList], [], ["See".toList],
        [List.replicate 24 '長', "or".toList], [List.replicate 26 '長'], ["there.".toList]] ∧
    ∃ groups, List.Forall₂ (Filled 1) (paragraphs (String.ofList centsText)) groups ∧
      (Line.text (Line.comments (String.ofList centsText) 1)).splitOn '\n' =
        groups.flatten.map (lineText 1) ++ [[]] := by
  refine ⟨Nat.le_refl 1, ?_, splitOn_text_comments (String.ofList centsText) (Nat.le_refl 1)⟩
  rw [lines, String.toList_ofList]
  decide +kernel

end GoSchema.Schema.Comment
