import GoSchema.Proofs.Schema.Layout

/-!
# Documentation stays in comments

The documentation of a message, a field, a service or a method is any text at all, and it is written
into the same file as the schema.  None of it is ever read as schema: whatever the documentation
says, a document is written or refused for the same reason, and the lines of the text that are
neither blank nor comments are the same (`map_uncommented_emit`).

## Strategy

What is written is a list of lines, and those that come from documentation are comments and blank
lines among them.  A comment is put together from words, which hold no line end, so it is one line
of the text and begins with two slashes.  Then reading the text without blank lines and comments is
reading the lines of code alone (`codeLines_text`), and the lines of code are laid out without
looking at the documentation (`code_lines_eraseDocs`).
-/

namespace GoSchema.Schema

open Text

/-! ## Erasing documentation -/

/-- A field without its documentation. -/
def Field.eraseDocs (f : Field) : Field := { f with docs := "" }

/-- A message without its documentation and that of its fields. -/
def Message.eraseDocs (msg : Message) : Message :=
  { msg with docs := "", fields := msg.fields.map Field.eraseDocs }

/-- A method without its documentation. -/
def Method.eraseDocs (method : Method) : Method := { method with docs := "" }

/-- A service without its documentation and that of its methods. -/
def Service.eraseDocs (svc : Service) : Service :=
  { svc with docs := "", methods := svc.methods.map Method.eraseDocs }

/-- A document without the documentation of its messages, fields, services and methods. -/
def Document.eraseDocs (doc : Document) : Document :=
  { doc with
    messages := doc.messages.map Message.eraseDocs
    services := doc.services.map Service.eraseDocs }

/-! ## Reading lines -/

namespace Line

/-- Whether a line belongs to the schema. -/
def isCode : Line → Bool
  | code .. => true
  | _ => false

/-- A comment that is a single line. -/
def Closed : Line → Prop
  | comment _ words => ∀ word ∈ words, '\n' ∉ word
  | _ => True

theorem closed_of_mem_comments {docs : String} {depth : Nat} {line : Line}
    (h : line ∈ comments docs depth) : line.Closed := by
  obtain ⟨words, hwords, rfl⟩ := List.mem_map.mp h
  exact fun word hword => Comment.newline_notMem_of_mem_lines hwords hword

private theorem newline_notMem_intercalate {words : List (List Char)}
    (h : ∀ word ∈ words, '\n' ∉ word) : '\n' ∉ [' '].intercalate words := by
  induction words with
  | nil => simp
  | cons word rest ih =>
      have hrest := ih fun word hword => h word (List.mem_cons_of_mem _ hword)
      cases rest with
      | nil => simpa using h word List.mem_cons_self
      | cons next rest =>
          rw [List.intercalate_cons_cons]
          simp only [List.mem_append, not_or]
          exact ⟨⟨h word List.mem_cons_self, by decide⟩, hrest⟩

/-- A line that begins with two slashes after its indentation. -/
private theorem codeLines_comment_append (blanks : Nat) {text : List Char} (h : '\n' ∉ text)
    (rest : List Char) :
    codeLines (List.replicate blanks ' ' ++ '/' :: '/' :: text ++ '\n' :: rest) =
      codeLines rest := by
  have hwhite : ∀ c ∈ List.replicate blanks ' ', isWhite c := by
    intro c hc
    rw [List.eq_of_mem_replicate hc]
    decide
  have hslash : ¬isWhite '/' := by decide
  have hcode : Text.isCode (List.replicate blanks ' ' ++ '/' :: '/' :: text) = false := by
    rw [Text.isCode, List.dropWhile_append_of_pos hwhite, List.dropWhile_cons_of_neg hslash]
    rfl
  have hline : '\n' ∉ List.replicate blanks ' ' ++ '/' :: '/' :: text := by
    simp only [List.mem_append, List.mem_replicate, List.mem_cons, not_or]
    exact ⟨fun hmem => absurd hmem.2 (by decide), by decide, by decide, h⟩
  rw [codeLines_append, codeLines_eq_nil hline hcode, List.nil_append]

/-- A line that comes from documentation leaves nothing behind. -/
theorem codeLines_render_append {line : Line} (hclosed : line.Closed) (hcode : ¬line.isCode)
    (rest : List Char) : codeLines (line.render.toList ++ rest) = codeLines rest := by
  cases line with
  | blank => exact codeLines_append [] rest
  | comment depth words =>
      cases words with
      | nil =>
          rw [← codeLines_comment_append (2 * depth) List.not_mem_nil rest]
          simp [render, indent]
      | cons word more =>
          have htext : '\n' ∉ ' ' :: [' '].intercalate (word :: more) :=
            List.not_mem_cons_of_ne_of_not_mem (by decide) (newline_notMem_intercalate hclosed)
          rw [← codeLines_comment_append (2 * depth) htext rest]
          simp [render, indent]
  | code depth text => exact absurd rfl hcode

theorem codeLines_render_code_append (depth : Nat) (line : String) (rest : List Char) :
    codeLines ((code depth line).render.toList ++ rest) =
      codeLines (indent depth ++ line).toList ++ codeLines rest := by
  rw [← codeLines_append]
  simp [render]

/-- Reading a text without blank lines and comments is reading its lines of code. -/
theorem codeLines_text {ls : List Line} (hclosed : ∀ line ∈ ls, line.Closed) :
    codeLines (text ls) = codeLines (text (ls.filter isCode)) := by
  induction ls with
  | nil => rfl
  | cons line rest ih =>
      have ih := ih fun line hline => hclosed line (List.mem_cons_of_mem _ hline)
      by_cases hcode : line.isCode
      · rw [List.filter_cons_of_pos hcode]
        cases line with
        | code depth line =>
            show codeLines (_ ++ text rest) = codeLines (_ ++ text (rest.filter isCode))
            rw [codeLines_render_code_append, codeLines_render_code_append, ih]
        | blank | comment => cases hcode
      · rw [List.filter_cons_of_neg hcode, ← ih]
        exact codeLines_render_append (hclosed line List.mem_cons_self) hcode _

/-! ## Lines of code -/

theorem filter_isCode_comments (docs : String) (depth : Nat) :
    (comments docs depth).filter isCode = [] := by
  refine List.filter_eq_nil_iff.mpr fun line hline => ?_
  obtain ⟨words, -, rfl⟩ := List.mem_map.mp hline
  exact Bool.false_ne_true

/-- Documentation decides which lines stand between the members, and nothing else. -/
theorem filter_isCode_members (before? : Option String) (body : List (String × String)) :
    (members before? body).filter isCode = body.map fun member => code 1 member.2 := by
  induction body generalizing before? with
  | nil => rfl
  | cons member rest ih =>
      have hblank (separate : Bool) :
          (if separate then [blank] else []).filter isCode = [] := by
        cases separate <;> rfl
      rw [members, List.filter_append, List.filter_append, hblank, filter_isCode_comments,
        List.filter_cons_of_pos rfl, ih]
      rfl

/-- The lines of code of a block are those of the block without documentation. -/
theorem filter_isCode_block (docs head : String) (body : List (String × String)) :
    (block docs head body).filter isCode =
      (block "" head (body.map fun member => ("", member.2))).filter isCode := by
  unfold block
  rw [List.filter_append, List.filter_append, filter_isCode_comments, filter_isCode_comments,
    List.isEmpty_map]
  cases body.isEmpty with
  | true => rfl
  | false =>
      have hopen : isCode (code 0 (head ++ " \x7b")) := rfl
      simp only [List.filter_append, List.filter_cons_of_pos hopen, Bool.false_eq_true, if_false,
        List.cons_append, filter_isCode_members, List.map_map]
      rfl

theorem closed_of_mem_members {before? : Option String} {body : List (String × String)}
    {line : Line} (h : line ∈ members before? body) : line.Closed := by
  induction body generalizing before? with
  | nil => cases h
  | cons member rest ih =>
      rw [members, List.mem_append, List.mem_append, List.mem_cons] at h
      rcases h with (h | h) | rfl | h
      · split at h
        · rw [List.mem_singleton.mp h]
          trivial
        · cases h
      · exact closed_of_mem_comments h
      · trivial
      · exact ih h

theorem closed_of_mem_block {docs head : String} {body : List (String × String)} {line : Line}
    (h : line ∈ block docs head body) : line.Closed := by
  unfold block at h
  rcases List.mem_append.mp h with h | h
  · exact closed_of_mem_comments h
  · split at h
    · rw [List.mem_singleton.mp h]
      trivial
    · rw [List.mem_append, List.mem_cons, List.mem_singleton] at h
      rcases h with (rfl | h) | rfl
      · trivial
      · exact closed_of_mem_members h
      · trivial

end Line

/-! ## Documents -/

theorem filter_isCode_message_lines (msg : Message) :
    msg.eraseDocs.lines.filter Line.isCode = msg.lines.filter Line.isCode := by
  rw [Message.lines, Message.lines, Line.filter_isCode_block msg.docs, Message.eraseDocs,
    List.map_map, List.map_map]
  rfl

theorem filter_isCode_service_lines (svc : Service) :
    svc.eraseDocs.lines.filter Line.isCode = svc.lines.filter Line.isCode := by
  rw [Service.lines, Service.lines, Line.filter_isCode_block svc.docs, Service.eraseDocs,
    List.map_map, List.map_map]
  rfl

namespace Document

/-- **The layout of the schema.**  Its lines are laid out without looking at the documentation. -/
theorem filter_isCode_lines (doc : Document) :
    doc.eraseDocs.lines.filter Line.isCode = doc.lines.filter Line.isCode := by
  have hblank (ls : List Line) : (Line.blank :: ls).filter Line.isCode = ls.filter Line.isCode :=
    rfl
  unfold lines
  simp only [List.filter_append, List.filter_flatMap, hblank]
  congr 1
  · congr 1
    show (doc.messages.map Message.eraseDocs).flatMap _ = _
    rw [List.flatMap_map]
    simp only [filter_isCode_message_lines]
  · show (doc.services.map Service.eraseDocs).flatMap _ = _
    rw [List.flatMap_map]
    simp only [filter_isCode_service_lines]

theorem closed_of_mem_sectionLines {texts : List String} {line : Line}
    (h : line ∈ sectionLines texts) : line.Closed := by
  unfold sectionLines at h
  split at h
  · cases h
  · rcases List.mem_cons.mp h with rfl | h
    · trivial
    · obtain ⟨text, -, rfl⟩ := List.mem_map.mp h
      trivial

theorem closed_of_mem_lines {doc : Document} {line : Line} (h : line ∈ doc.lines) :
    line.Closed := by
  simp only [lines, List.mem_append, List.mem_flatMap, List.mem_cons, List.not_mem_nil,
    or_false] at h
  rcases h with ((((rfl | rfl) | h) | h) | ⟨msg, -, rfl | h⟩) | ⟨svc, -, rfl | h⟩
  · trivial
  · trivial
  · exact closed_of_mem_sectionLines h
  · exact closed_of_mem_sectionLines h
  · trivial
  · exact Line.closed_of_mem_block h
  · trivial
  · exact Line.closed_of_mem_block h

theorem uncommented_render (doc : Document) :
    uncommented doc.render = uncommented doc.eraseDocs.render := by
  have htext (doc : Document) : codeLines doc.render.toList =
      codeLines (Line.text (doc.lines.filter Line.isCode)) := by
    rw [toList_render]
    exact Line.codeLines_text fun line => closed_of_mem_lines
  rw [uncommented, uncommented, htext, htext, filter_isCode_lines]

end Document

/-! ## Verifying -/

theorem checkFields_eraseDocs (message : String) (seen : List String) (tag : Nat)
    (fields : List Field) :
    Message.checkFields message seen tag (fields.map Field.eraseDocs) =
      Message.checkFields message seen tag fields := by
  induction fields generalizing seen tag with
  | nil => rfl
  | cons f rest ih =>
      rw [List.map_cons, Message.checkFields, Message.checkFields, ih]
      rfl

theorem checkMethods_eraseDocs (service : String) (seen : List String) (methods : List Method) :
    Service.checkMethods service seen (methods.map Method.eraseDocs) =
      Service.checkMethods service seen methods := by
  induction methods generalizing seen with
  | nil => rfl
  | cons method rest ih =>
      rw [List.map_cons, Service.checkMethods, Service.checkMethods, ih]
      rfl

namespace Document

theorem checkMessages_eraseDocs (seen : List String) (messages : List Message) :
    checkMessages seen (messages.map Message.eraseDocs) = checkMessages seen messages := by
  induction messages generalizing seen with
  | nil => rfl
  | cons msg rest ih =>
      have hmessage : msg.eraseDocs.verify = msg.verify := checkFields_eraseDocs ..
      rw [List.map_cons, checkMessages, checkMessages, hmessage, ih]
      rfl

theorem checkServices_eraseDocs (seen : List String) (services : List Service) :
    checkServices seen (services.map Service.eraseDocs) = checkServices seen services := by
  induction services generalizing seen with
  | nil => rfl
  | cons svc rest ih =>
      have hservice : svc.eraseDocs.verify = svc.verify := checkMethods_eraseDocs ..
      rw [List.map_cons, checkServices, checkServices, hservice, ih]
      rfl

theorem verify_eraseDocs (doc : Document) : doc.eraseDocs.verify = doc.verify := by
  rw [verify, verify]
  show (do checkMessages [] (doc.messages.map Message.eraseDocs)
           checkServices [] (doc.services.map Service.eraseDocs)) = _
  rw [checkMessages_eraseDocs, checkServices_eraseDocs]

/-! ## The statement -/

private theorem map_uncommented_emit_eraseDocs (doc : Document) :
    doc.emit.map uncommented = doc.eraseDocs.emit.map uncommented := by
  rw [emit, emit, verify_eraseDocs]
  cases doc.verify with
  | error problem => rfl
  | ok u => exact congrArg Except.ok doc.uncommented_render

/-- **Documentation stays in comments.**  Of two documents that differ in nothing but documentation,
either both are refused, for the same reason, or both are written, and then their texts are the same
without blank lines and comments. -/
theorem map_uncommented_emit {doc doc' : Document} (h : doc.eraseDocs = doc'.eraseDocs) :
    doc.emit.map uncommented = doc'.emit.map uncommented := by
  rw [map_uncommented_emit_eraseDocs doc, map_uncommented_emit_eraseDocs doc', h]

end Document

/-! ## An example -/

/-- A document with a message and a field that are documented by given texts. -/
def shelf (messageDocs fieldDocs : String) : Document :=
  { Document.empty "shelf.proto" "shelf" with
    messages := [⟨"Shelf", messageDocs,
      [⟨"width", fieldDocs, 1, .scalar "int32", ⟨none, false, none⟩⟩]⟩] }

/-- Documentation that looks like schema. -/
def strayDocs : String := "A shelf.\n\x7d\r\n\nmessage Thief \x7b\u2028 // string loot = 1;"

theorem map_uncommented_emit_shelf :
    (shelf strayDocs strayDocs).eraseDocs = (shelf "" "").eraseDocs ∧
      (shelf "" "").emit.map uncommented =
        .ok "syntax = \"proto3\";\npackage shelf;\nmessage Shelf \x7b\n  int32 width = 1;\n\x7d\n" ∧
      (shelf strayDocs strayDocs).emit.map uncommented =
        (shelf "" "").emit.map uncommented := by
  have herased : (shelf strayDocs strayDocs).eraseDocs = (shelf "" "").eraseDocs := by decide
  exact ⟨herased, by decide +kernel, Document.map_uncommented_emit herased⟩

end GoSchema.Schema
