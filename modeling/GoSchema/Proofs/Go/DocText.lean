import GoSchema.Proofs.Go.TypeText
import GoSchema.Proofs.Text.Lines

/-!
# Documentation is read as it is written

The documentation of an item is written in line comments above it, one for each of its lines.  On
the way to the item these are passed together with the line ends between them
(`skipTrivia_documented`); they form a block that ends on the line above, and say the documentation
(`docs_commentsFor`).
-/

namespace GoSchema.Go

open Lexeme

/-! ## Documentation in line comments -/

/-- The lines of a documentation. -/
def docLines (docs : String) : List (List Char) :=
  if docs.isEmpty then [] else docs.toList.splitOn '\n'

/-- What a line comment for a line of documentation says after its marks. -/
def commentBody (line : List Char) : String :=
  if line.isEmpty then "" else " " ++ String.ofList line

/-- Whether a documentation can be written in comments: its lines end without white space and do not
instruct tools. -/
def isDocumentation (docs : String) : Bool :=
  (docLines docs).all fun line => Text.trimEnd line == line && !Comment.isDirective line

theorem isDocumentation_empty : isDocumentation "" := by decide

/-- The comments for some lines of documentation, from a given line of the file on. -/
def commentsFor : Nat → List (List Char) → List Comment
  | _, [] => []
  | n, line :: lines => ⟨n, "//" ++ commentBody line⟩ :: commentsFor (n + 1) lines

section Documentation

variable {n : Nat} {line : List Char} {lines : List (List Char)} {docs : String}

theorem newline_notMem_of_mem_docLines (h : line ∈ docLines docs) : '\n' ∉ line := by
  intro hmem
  unfold docLines at h
  split at h
  · cases h
  · exact absurd (Text.not_of_mem_splitOnP h hmem) (by decide)

theorem newline_notMem_commentBody (h : '\n' ∉ line) : '\n' ∉ (commentBody line).toList := by
  unfold commentBody
  split <;> simp [h]

theorem content_comment (h : Text.trimEnd line = line) :
    Comment.content ⟨n, "//" ++ commentBody line⟩ = line := by
  have hmarks : Comment.dropBlank (Comment.dropMarks ("//" ++ commentBody line).toList) = line := by
    unfold commentBody
    cases line <;> simp [Comment.dropMarks, Comment.dropBlank]
  rw [Comment.content, hmarks, h]

theorem commentsFor_append (lines : List (List Char)) (line : List Char) :
    commentsFor n (lines ++ [line]) =
      commentsFor n lines ++ [⟨n + lines.length, "//" ++ commentBody line⟩] := by
  induction lines generalizing n with
  | nil => rfl
  | cons first lines ih =>
      rw [List.cons_append, commentsFor, ih, commentsFor, List.length_cons, List.cons_append,
        Nat.add_right_comm, Nat.add_assoc]

/-- All the comments are in the block above the line after them. -/
theorem blockAbove_commentsFor (lines : List (List Char)) :
    Comment.blockAbove (n + lines.length) (commentsFor n lines).reverse =
      (commentsFor n lines).reverse := by
  induction lines using List.reverseRecOn with
  | nil => rfl
  | append_singleton lines line ih =>
      rw [commentsFor_append, List.reverse_concat, List.length_append, List.length_singleton,
        Comment.blockAbove, if_pos (Nat.add_assoc ..), ih]

theorem map_content_commentsFor (h : ∀ line ∈ lines, Text.trimEnd line = line) :
    (commentsFor n lines).map Comment.content = lines := by
  induction lines generalizing n with
  | nil => rfl
  | cons line lines ih =>
      obtain ⟨hline, hlines⟩ := List.forall_mem_cons.mp h
      rw [commentsFor, List.map_cons, content_comment hline, ih hlines]

theorem intercalate_docLines (docs : String) :
    String.ofList (['\n'].intercalate (docLines docs)) = docs := by
  unfold docLines
  split
  · next h =>
    rw [String.isEmpty_iff.mp h]
    rfl
  · rw [List.intercalate_splitOn, String.ofList_toList]

/-- The comments for a documentation say it. -/
theorem docs_commentsFor (h : isDocumentation docs) :
    Comment.docs (n + (docLines docs).length) (commentsFor n (docLines docs)).reverse = docs := by
  simp only [isDocumentation, List.all_eq_true, Bool.and_eq_true, beq_iff_eq] at h
  rw [Comment.docs, blockAbove_commentsFor, List.reverse_reverse,
    map_content_commentsFor fun line hline => (h line hline).1,
    List.filter_eq_self.mpr fun line hline => (h line hline).2, intercalate_docLines]

end Documentation

/-! ## Passing over comments and line ends -/

namespace Cursor

/-- A token that is passed between two items. -/
def isTrivia (t : Token) : Bool :=
  t.kind == .comment || t.kind == .newline || (t.kind == .punct && t.text == ";")

/-- The comments among some tokens. -/
def commentsOf (tokens : List Token) : List Comment :=
  tokens.filterMap fun t => if t.kind = .comment then some ⟨t.pos.line, t.text⟩ else none

theorem commentsOf_append (first second : List Token) :
    commentsOf (first ++ second) = commentsOf first ++ commentsOf second :=
  List.filterMap_append

/-- The cursor that has passed more comments. -/
def noting (c : Cursor) (comments : List Comment) : Cursor :=
  { c with passed := comments ++ c.passed }

variable {c : Cursor} {line : Nat} {t : Token} {rest trivia : List Token}

theorem BeginsType.isTrivia_eq_false (h : BeginsType t) : isTrivia t = false := by
  obtain ⟨kind, text, pos⟩ := t
  rcases h with ⟨rfl, -⟩ | ⟨rfl, rfl | rfl⟩ <;> rfl

theorem skipTrivia_eq_self (h : isTrivia t = false) :
    (c.jump line (t :: rest)).skipTrivia = c.jump line (t :: rest) := by
  simp only [isTrivia, Bool.or_eq_false_iff, Bool.and_eq_false_iff, beq_eq_false_iff_ne] at h
  rw [skipTrivia]
  simp only [jump]
  grind

theorem skipTrivia_comment (h : t.kind = .comment) :
    (c.jump line (t :: rest)).skipTrivia =
      ((c.noting [⟨t.pos.line, t.text⟩]).jump t.pos.line rest).skipTrivia := by
  rw [skipTrivia]
  simp only [jump, h, if_pos]
  rfl

theorem skipTrivia_lineEnd (h : isTrivia t) (hcomment : t.kind ≠ .comment) :
    (c.jump line (t :: rest)).skipTrivia = (c.jump t.pos.line rest).skipTrivia := by
  simp only [isTrivia, Bool.or_eq_true, Bool.and_eq_true, beq_iff_eq, hcomment, false_or] at h
  rw [skipTrivia]
  simp only [jump, if_neg hcomment, if_pos h]
  rfl

theorem skipTrivia_jump (c : Cursor) (line : Nat) (htrivia : ∀ u ∈ trivia, isTrivia u)
    (rest : List Token) (h : isTrivia t = false) :
    ∃ line', (c.jump line (trivia ++ t :: rest)).skipTrivia =
      (c.noting (commentsOf trivia).reverse).jump line' (t :: rest) := by
  induction trivia generalizing c line with
  | nil => exact ⟨line, skipTrivia_eq_self h⟩
  | cons u trivia ih =>
      obtain ⟨hu, htrivia⟩ := List.forall_mem_cons.mp htrivia
      rw [List.cons_append]
      by_cases hcomment : u.kind = .comment
      · obtain ⟨line', heq⟩ := ih (c.noting [⟨u.pos.line, u.text⟩]) u.pos.line htrivia
        rw [skipTrivia_comment hcomment]
        refine ⟨line', heq.trans ?_⟩
        simp [noting, commentsOf, hcomment, jump]
      · obtain ⟨line', heq⟩ := ih c u.pos.line htrivia
        rw [skipTrivia_lineEnd hu hcomment]
        refine ⟨line', heq.trans ?_⟩
        simp [commentsOf, hcomment]

theorem forget_jump (h : c.passed = []) : (c.jump line rest).forget = c.jump line rest := by
  rw [forget, jump, ← h]

theorem docs_jump (h : c.passed = []) (n : Nat) : (c.jump line rest).docs n = "" := by
  rw [docs, jump, h]
  rfl

/-- The line end before an item is passed. -/
theorem skipTrivia_lineEnd_jump {t : Token} (h : isTrivia t = false) (pos : Position) :
    (c.jump line (⟨.newline, "\n", pos⟩ :: t :: rest)).skipTrivia =
      c.jump pos.line (t :: rest) := by
  rw [skipTrivia_lineEnd rfl (by simp), skipTrivia_eq_self h]

end Cursor

/-! ## Documented items -/

/-- What stands before an item on its line: a tabulator within a body. -/
def margin (inBody : Bool) : List Piece := if inBody then [.indent] else []

/-- Lines with a comment each. -/
def commentPieces (inBody : Bool) (lines : List (List Char)) : List Piece :=
  lines.flatMap fun line => margin inBody ++ [.comment (commentBody line), .lineEnd]

/-- The comments above an item. -/
def docPieces (inBody : Bool) (docs : String) : List Piece := commentPieces inBody (docLines docs)

theorem Position.line_after (pos : Position) (s : List Char) :
    (pos.after s).line = pos.line + s.count '\n' := by
  induction s generalizing pos with
  | nil => rfl
  | cons c s ih =>
      rw [after, List.foldl_cons, ← after, ih, next]
      by_cases hc : c = '\n'
      · simp [hc]
        omega
      · simp [hc]

section CommentPieces

variable {inBody : Bool} {lines : List (List Char)} {pos : Position}

theorem tokensOf_margin_append (inBody : Bool) (pieces : List Piece) :
    tokensOf pos (margin inBody ++ pieces) =
      tokensOf (pos.after (spell (margin inBody))) pieces := by
  cases inBody <;> rfl

theorem line_after_margin (inBody : Bool) :
    (pos.after (spell (margin inBody))).line = pos.line := by
  cases inBody <;> rfl

theorem commentPieces_cons (inBody : Bool) (line : List Char) (lines : List (List Char)) :
    commentPieces inBody (line :: lines) =
      margin inBody ++ .comment (commentBody line) :: .lineEnd :: commentPieces inBody lines := by
  simp [commentPieces]

theorem tokensOf_commentPieces_cons (inBody : Bool) (line : List Char) (lines : List (List Char)) :
    tokensOf pos (commentPieces inBody (line :: lines)) =
      let above := pos.after (spell (margin inBody))
      let behind := above.after ("//" ++ commentBody line).toList
      ⟨.comment, "//" ++ commentBody line, above⟩ :: ⟨.newline, "\n", behind⟩ ::
        tokensOf (behind.after ['\n']) (commentPieces inBody lines) := by
  rw [commentPieces_cons, tokensOf_margin_append, tokensOf_comment, tokensOf_lineEnd]

theorem line_after_comment (pos : Position) (inBody : Bool) {line : List Char} (h : '\n' ∉ line) :
    (((pos.after (spell (margin inBody))).after ("//" ++ commentBody line).toList).after
      ['\n']).line = pos.line + 1 := by
  have hbody : ("//" ++ commentBody line).toList.count '\n' = 0 :=
    List.count_eq_zero.mpr (by simpa using newline_notMem_commentBody h)
  rw [Position.line_after, Position.line_after, hbody, line_after_margin]
  rfl

theorem isTrivia_of_mem_commentPieces :
    ∀ t ∈ tokensOf pos (commentPieces inBody lines), Cursor.isTrivia t := by
  induction lines generalizing pos with
  | nil => exact List.forall_mem_nil _
  | cons line lines ih =>
      rw [tokensOf_commentPieces_cons]
      exact List.forall_mem_cons.mpr ⟨rfl, List.forall_mem_cons.mpr ⟨rfl, ih⟩⟩

theorem line_after_commentPieces (h : ∀ line ∈ lines, '\n' ∉ line) :
    (pos.after (spell (commentPieces inBody lines))).line = pos.line + lines.length := by
  induction lines generalizing pos with
  | nil => rfl
  | cons line lines ih =>
      obtain ⟨hline, hlines⟩ := List.forall_mem_cons.mp h
      have hfirst := line_after_comment pos inBody hline
      rw [commentPieces_cons, spell_append, spell_cons, spell_cons, Position.after_append,
        Position.after_append, Position.after_append, ih hlines, List.length_cons,
        Nat.add_comm lines.length, ← Nat.add_assoc]
      exact congrArg (· + lines.length) hfirst

theorem commentsOf_commentPieces (h : ∀ line ∈ lines, '\n' ∉ line) :
    Cursor.commentsOf (tokensOf pos (commentPieces inBody lines)) = commentsFor pos.line lines := by
  induction lines generalizing pos with
  | nil => rfl
  | cons line lines ih =>
      obtain ⟨hline, hlines⟩ := List.forall_mem_cons.mp h
      have hfirst := line_after_comment pos inBody hline
      rw [tokensOf_commentPieces_cons]
      dsimp only
      rw [commentsFor, ← hfirst, ← ih hlines, ← line_after_margin inBody]
      rfl

theorem fits_margin_append {pieces : List Piece} {rest : List Char} (h : Fits pieces rest)
    (hsolid : BeginsSolid (spell pieces ++ rest)) : Fits (margin inBody ++ pieces) rest := by
  cases inBody with
  | false => exact h
  | true => exact ⟨stands_blank (by decide) hsolid, h⟩

theorem fits_commentPieces (h : ∀ line ∈ lines, '\n' ∉ line) (rest : List Char) :
    Fits (commentPieces inBody lines) rest := by
  induction lines with
  | nil => exact trivial
  | cons line lines ih =>
      obtain ⟨hline, hlines⟩ := List.forall_mem_cons.mp h
      rw [commentPieces_cons]
      refine fits_margin_append ⟨?_, stands_lineEnd _, ih hlines⟩ ?_
      · exact stands_comment (newline_notMem_commentBody hline) _
      · simp [BeginsSolid, Piece.comment, isBlank]

end CommentPieces

theorem fits_docPieces (inBody : Bool) (docs : String) (rest : List Char) :
    Fits (docPieces inBody docs) rest :=
  fits_commentPieces (fun _ => newline_notMem_of_mem_docLines) rest

theorem line_after_docPieces (inBody : Bool) (docs : String) (pos : Position) :
    (pos.after (spell (docPieces inBody docs))).line = pos.line + (docLines docs).length :=
  line_after_commentPieces fun _ => newline_notMem_of_mem_docLines

namespace Cursor

variable {c : Cursor} {line : Nat} {t : Token} {rest gap : List Token} {docs : String}

/-- What is passed before a documented item: line ends and the comments of its documentation. -/
theorem skipTrivia_documented (c : Cursor) (line : Nat) (hgap : ∀ u ∈ gap, u.kind = .newline)
    (inBody : Bool) (docs : String) (pos : Position) (rest : List Token) (ht : isTrivia t = false) :
    ∃ line', (c.jump line (gap ++ (tokensOf pos (docPieces inBody docs) ++ t :: rest))).skipTrivia =
      (c.noting (commentsFor pos.line (docLines docs)).reverse).jump line' (t :: rest) := by
  have hnone : commentsOf gap = [] := by
    rw [commentsOf, List.filterMap_eq_nil_iff]
    intro u hu
    rw [hgap u hu]
    rfl
  have hcomments : commentsOf (gap ++ tokensOf pos (docPieces inBody docs)) =
      commentsFor pos.line (docLines docs) := by
    rw [← commentsOf_commentPieces fun _ => newline_notMem_of_mem_docLines, commentsOf,
      List.filterMap_append, ← commentsOf, hnone]
    rfl
  rw [← List.append_assoc, ← hcomments]
  refine skipTrivia_jump c line (fun u hu => ?_) rest ht
  rcases List.mem_append.mp hu with hu | hu
  · rw [isTrivia, hgap u hu]
    rfl
  · exact isTrivia_of_mem_commentPieces u hu

theorem forget_noting (h : c.passed = []) (comments : List Comment) :
    ((c.noting comments).jump line rest).forget = c.jump line rest := by
  rw [forget, noting, jump, jump, ← h]

theorem docs_noting (h : c.passed = []) (hdocs : isDocumentation docs) {n m : Nat}
    (hm : m = n + (docLines docs).length) :
    ((c.noting (commentsFor n (docLines docs)).reverse).jump line rest).docs m = docs := by
  subst hm
  rw [Cursor.docs]
  simp only [noting, jump, h, List.append_nil]
  exact docs_commentsFor hdocs

end Cursor

end GoSchema.Go
