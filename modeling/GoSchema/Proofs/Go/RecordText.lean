import GoSchema.Proofs.Go.FileText
import GoSchema.Proofs.Go.TagText

/-!
# Records and defined types are read as they are printed

A record is written with one field on a line, each below its documentation: a name and a type, or an
embedded type alone, and then the tag if there is one.  Reading what is written gives the same
declarations back, with the places where their names stand (`value_ofText_declarations`).

## Strategy

Two fields are told apart by the line end between them, and what is passed there are the comments of
the second one only.  So the fields are read one by one, by induction on their list
(`reads_parseFields`); whether a field is embedded shows in its first two tokens
(`beginsEmbedded_item`).
-/

namespace GoSchema.Go

open Lexeme

/-! ## Printing fields -/

/-- Whether a type can be embedded: it is a name or a pointer to one. -/
def TypeExpr.isEmbeddable : TypeExpr → Bool
  | named .. | pointer (named ..) => true
  | _ => false

/-- The pieces of a tag.  A tag without entries is not written. -/
def Tag.pieces (tag : Tag) : List Piece :=
  if tag.entries.isEmpty then [] else [.blank, .raw tag.text]

namespace Field

/-- What stands on the line of a field. -/
def item (f : Field) : List Piece :=
  match f.name? with
  | some name => .word name :: .blank :: (f.type.pieces ++ f.tag.pieces)
  | none => f.type.pieces ++ f.tag.pieces

/-- What stands before a field: its documentation and a tabulator. -/
def lead (f : Field) : List Piece := docPieces true f.docs ++ [.indent]

/-- The lines of a field. -/
def lines (f : Field) : List Piece := f.lead ++ (f.item ++ [.lineEnd])

/-- Whether a field can be written. -/
def isPrintable (f : Field) : Bool :=
  isDocumentation f.docs && f.tag.isPrintable && f.type.isPlain &&
    match f.name? with
    | some name => isName name
    | none => f.type.isEmbeddable

/-- The fields at the places where they are written, which is where the name or the embedded type
begins. -/
def placed : Position → List Field → List Field
  | _, [] => []
  | pos, f :: more =>
    { f with pos := pos.after (spell f.lead) } :: placed (pos.after (spell f.lines)) more

end Field

/-! ## Printing declarations -/

namespace Declaration

/-- What stands for the type of a declaration. -/
def Kind.pieces : Kind → List Piece
  | record fields => bodyPieces "struct" (fields.flatMap Field.lines)
  | defined type => type.pieces
  | contract _ => []

/-- Whether the type of a declaration can be written. -/
def Kind.isPrintable : Kind → Bool
  | record fields => fields.all Field.isPrintable
  | defined type => type.isPlain
  | contract _ => false

/-- The type with its fields at the places where they are written. -/
def Kind.placed (pos : Position) : Kind → Kind
  | record fields => record (Field.placed (pos.after (spell (bodyHead "struct"))) fields)
  | kind => kind

/-- The text of a declaration. -/
def text (d : Declaration) : TypeText := ⟨d.docs, d.name, d.kind.pieces, d.kind.placed⟩

/-- Whether a declaration can be written. -/
def isPrintable (d : Declaration) : Bool :=
  isName d.name && isDocumentation d.docs && d.kind.isPrintable

/-- The declarations of a file at the places where they are written. -/
def placed (file : String) : Position → List Declaration → List Declaration
  | _, [] => []
  | pos, d :: more =>
    { d with
      file := file
      pos := d.text.namePos pos
      kind := d.kind.placed (d.text.bodyPos pos) } ::
    placed file (pos.after (spell d.text.pieces)) more

end Declaration

/-! ## What is written keeps apart -/

theorem Tag.fits_pieces {tag : Tag} (h : tag.isPrintable) (rest : List Char) :
    Fits tag.pieces rest := by
  unfold Tag.pieces
  split
  · exact trivial
  · refine ⟨stands_blank (by decide) ?_, stands_raw (mark_notMem_text h) _, trivial⟩
    simp [BeginsSolid, Piece.raw, isBlank]

theorem Tag.endsWord_pieces (tag : Tag) (rest : List Char) :
    EndsWord (spell tag.pieces ++ '\n' :: rest) := by
  unfold Tag.pieces
  split
  · exact endsWord_cons (by decide) _
  · exact endsWord_cons (by decide) _

namespace Field

variable {f : Field}

theorem isDocumentation_docs (h : f.isPrintable) : isDocumentation f.docs := by
  simp only [isPrintable, Bool.and_eq_true] at h
  exact h.1.1.1

theorem beginsSolid_item (h : f.isPrintable) (rest : List Char) :
    BeginsSolid (spell f.item ++ rest) := by
  obtain ⟨name?, type, tag, docs, pos⟩ := f
  simp only [isPrintable, Bool.and_eq_true] at h
  obtain ⟨⟨⟨-, -⟩, htype⟩, hname⟩ := h
  cases name? with
  | some name => exact beginsSolid_word (isIdentifier_of_isName hname) _ _
  | none =>
      rw [item, spell_append, List.append_assoc]
      exact TypeExpr.beginsSolid_pieces htype _

theorem fits_item (h : f.isPrintable) (rest : List Char) : Fits f.item ('\n' :: rest) := by
  obtain ⟨name?, type, tag, docs, pos⟩ := f
  simp only [isPrintable, Bool.and_eq_true] at h
  obtain ⟨⟨⟨-, htag⟩, htype⟩, hname⟩ := h
  have hpieces : Fits (type.pieces ++ tag.pieces) ('\n' :: rest) :=
    fits_append_iff.mpr
      ⟨TypeExpr.fits_pieces htype (tag.endsWord_pieces rest), Tag.fits_pieces htag _⟩
  cases name? with
  | none => exact hpieces
  | some name =>
      refine ⟨stands_word (isIdentifier_of_isName hname) (endsWord_cons (by decide) _),
        stands_blank (by decide) ?_, hpieces⟩
      rw [spell_append, List.append_assoc]
      exact TypeExpr.beginsSolid_pieces htype _

theorem fits_lines (h : f.isPrintable) (rest : List Char) : Fits f.lines rest := by
  have hsolid : BeginsSolid (spell (f.item ++ [.lineEnd]) ++ rest) := by
    rw [spell_append, List.append_assoc]
    exact beginsSolid_item h _
  refine fits_append_iff.mpr ⟨fits_append_iff.mpr ⟨fits_docPieces _ _ _, ?_⟩, ?_⟩
  · exact ⟨stands_blank (by decide) hsolid, trivial⟩
  · exact fits_append_iff.mpr ⟨fits_item h _, stands_lineEnd _, trivial⟩

end Field

/-! ## Reading fields -/

namespace Cursor

variable {c : Cursor} {line : Nat} {t : Token} {rest : List Token} {f : Field}

theorem BeginsType.endsField_eq_false (h : BeginsType t) : endsField t = false := by
  have hsemicolon : t.is ";" = false := h.is_eq_false (by decide) (by decide)
  have hbrace : t.is Token.closeBrace = false := h.is_eq_false (by decide) (by decide)
  rw [endsField, hsemicolon, hbrace]
  rcases h with ⟨hkind, -⟩ | ⟨hkind, -⟩ <;> rw [hkind] <;> rfl

/-- After a type there comes the tag or the end of the line. -/
theorem exists_tag_start (tag : Tag) (pos endPos : Position) (rest : List Token) :
    ∃ t more, tokensOf pos tag.pieces ++ ⟨.newline, "\n", endPos⟩ :: rest = t :: more ∧
      t.is "." = false ∧ t.is "[" = false ∧ endsField t := by
  unfold Tag.pieces
  split
  · exact ⟨_, _, rfl, rfl, rfl, rfl⟩
  · exact ⟨_, _, rfl, rfl, rfl, rfl⟩

theorem exists_parseTag {tag : Tag} (h : tag.isPrintable) (line : Nat) (pos endPos : Position)
    (rest : List Token) :
    ∃ line' h',
      parseTag (c.jump line (tokensOf pos tag.pieces ++ ⟨.newline, "\n", endPos⟩ :: rest)) =
        (tag, ⟨c.jump line' (⟨.newline, "\n", endPos⟩ :: rest), h'⟩) := by
  obtain ⟨_ | ⟨entry, entries⟩⟩ := tag
  · refine ⟨line, left_le _, ?_⟩
    change parseTag (c.jump line (⟨.newline, "\n", endPos⟩ :: rest)) = _
    rw [parseTag, next?_jump (by simp)]
    rfl
  · have hliteral := Tag.ofLiteral_text h
    refine ⟨(pos.after [' ']).line, Nat.le_succ _, ?_⟩
    change parseTag (c.jump line (⟨.str, "\x60" ++ Tag.text ⟨entry :: entries⟩ ++ "\x60",
      pos.after [' ']⟩ :: ⟨.newline, "\n", endPos⟩ :: rest)) = _
    rw [parseTag, next?_jump (by simp)]
    dsimp only
    rw [if_pos rfl, hliteral]
    rfl

theorem exists_beginsType_item (h : f.isPrintable) (pos : Position) :
    ∃ t more, tokensOf pos f.item = t :: more ∧ t.pos = pos ∧ BeginsType t := by
  obtain ⟨name?, type, tag, docs, pos⟩ := f
  simp only [Field.isPrintable, Bool.and_eq_true] at h
  obtain ⟨⟨-, htype⟩, hname⟩ := h
  cases name? with
  | some name => exact ⟨_, _, rfl, rfl, .inl ⟨rfl, .inl hname⟩⟩
  | none =>
      obtain ⟨t, more, htokens, hpos, hbegins⟩ := exists_beginsType htype _
      rw [Field.item, tokensOf_append, htokens]
      exact ⟨t, _, rfl, hpos, hbegins⟩

/-- The first two tokens of a field tell whether it has a name. -/
theorem beginsEmbedded_item (h : f.isPrintable) (pos endPos : Position) :
    (c.jump line (tokensOf pos f.item ++ ⟨.newline, "\n", endPos⟩ :: rest)).beginsEmbedded =
      f.name?.isNone := by
  obtain ⟨name?, type, tag, docs, fieldPos⟩ := f
  simp only [Field.isPrintable, Bool.and_eq_true] at h
  obtain ⟨⟨-, htype⟩, hname⟩ := h
  cases name? with
  | some name =>
      obtain ⟨t, more, htokens, -, hbegins⟩ :=
        exists_beginsType htype ((pos.after name.toList).after [' '])
      have hstar : (⟨.ident, name, pos⟩ : Token).is "*" = false :=
        is_word_eq_false hname (by decide) pos
      have hpoint : t.is "." = false := hbegins.is_eq_false (by decide) (by decide)
      rw [Field.item, tokensOf_word, tokensOf_blank, tokensOf_append, htokens, List.cons_append,
        List.cons_append, List.cons_append, beginsEmbedded, current_jump, ahead_one_jump, hstar,
        hpoint, hbegins.endsField_eq_false]
      rfl
  | none =>
      obtain ⟨t, more, htag, -, -, hends⟩ :=
        exists_tag_start tag (pos.after (spell type.pieces)) endPos rest
      rw [Field.item, tokensOf_append, List.append_assoc, htag]
      have hstar : ∀ name, isName name → (⟨.ident, name, pos⟩ : Token).is "*" = false :=
        fun name hname => is_word_eq_false hname (by decide) pos
      cases type with
      | named package? name =>
          obtain ⟨hpackage, hlocal⟩ := Bool.and_eq_true_iff.mp htype
          cases package? with
          | none =>
              rw [TypeExpr.pieces, tokensOf_word, tokensOf_nil, List.cons_append, List.nil_append,
                beginsEmbedded, current_jump, ahead_one_jump, hstar name hlocal, hends]
              simp
          | some package =>
              rw [TypeExpr.pieces, tokensOf_word, tokensOf_sign, List.cons_append, List.cons_append,
                beginsEmbedded, current_jump, ahead_one_jump, hstar package hpackage]
              rfl
      | pointer target => rfl
      | _ => cases hname

theorem endsType_tag (tag : Tag) (pos endPos : Position) :
    EndsType (tokensOf pos tag.pieces ++ ⟨.newline, "\n", endPos⟩ :: rest) := by
  obtain ⟨t, more, htokens, hpoint, hbracket, -⟩ := exists_tag_start tag pos endPos _
  exact ⟨t, more, htokens, hpoint, .inl hbracket⟩

theorem reads_parseNames (name : String) (pos : Position)
    (h : ∃ t more, rest = t :: more ∧ t.is "," = false) :
    c.Reads (parseNames (c.jump line (⟨.ident, name, pos⟩ :: rest)))
      [⟨.ident, name, pos⟩] rest := by
  obtain ⟨t, more, rfl, hcomma⟩ := h
  rw [parseNames, expectIdent_jump rfl, ok_bind]
  dsimp only
  rw [eat?_jump_eq_none hcomma]
  exact ⟨pos.line, _, rfl⟩

theorem reads_parseFieldLine (h : f.isPrintable) (pos endPos : Position) :
    c.Reads (parseFieldLine (c.jump line (tokensOf pos f.item ++ ⟨.newline, "\n", endPos⟩ :: rest))
      f.docs) [{ f with pos := pos }] (⟨.newline, "\n", endPos⟩ :: rest) := by
  obtain ⟨t, more, htokens, hpos, -⟩ := exists_beginsType_item h pos
  have hcurrent : (c.jump line (tokensOf pos f.item ++
      ⟨.newline, "\n", endPos⟩ :: rest)).current.pos = pos := by
    rw [htokens]
    exact hpos
  rw [parseFieldLine, beginsEmbedded_item h, hcurrent]
  obtain ⟨name?, type, tag, docs, fieldPos⟩ := f
  simp only [Field.isPrintable, Bool.and_eq_true] at h
  obtain ⟨⟨⟨-, htag⟩, htype⟩, hname⟩ := h
  cases name? with
  | some name =>
      rw [if_neg (by simp), Field.item, tokensOf_word, tokensOf_blank, tokensOf_append,
        List.cons_append, List.append_assoc]
      refine .bind (reads_parseNames name pos ?_) fun line hd => ?_
      · obtain ⟨t, more, htokens, -, hbegins⟩ := exists_beginsType htype _
        rw [htokens]
        exact ⟨t, _, rfl, hbegins.is_eq_false (by decide) (by decide)⟩
      refine .bind (reads_parseType htype _ (endsType_tag tag _ _)) fun line hd => ?_
      obtain ⟨line', h', heq⟩ := exists_parseTag htag line _ _ _
      dsimp only
      rw [heq]
      exact ⟨line', _, rfl⟩
  | none =>
      rw [if_pos (by simp), Field.item, tokensOf_append, List.append_assoc]
      refine .bind (reads_parseType htype pos (endsType_tag tag _ _)) fun line hd => ?_
      obtain ⟨line', h', heq⟩ := exists_parseTag htag line _ _ _
      dsimp only
      rw [heq]
      exact ⟨line', _, rfl⟩

/-- The fields from one that begins at a given cursor on. -/
theorem parseFields_of_skipTrivia {c d : Cursor} (hd : c.skipTrivia = d)
    (hclosing : d.current.is Token.closeBrace = false) (hend : d.isAtEnd = false) :
    c.parseFields = (do
      let (fields, ⟨e, he⟩) ← d.forget.parseFieldLine (d.docs d.current.pos.line)
      have he : e.skipTrailingComment.left < c.left :=
        later_of_within e.left_skipTrailingComment_le (later_of_skipTrivia (hd ▸ he))
      if !endsField e.skipTrailingComment.current then
        throw e.skipTrailingComment.unexpected
      let (more, ⟨f, hf⟩) ← parseFields e.skipTrailingComment
      return (fields ++ more, ⟨f, later_of_skipTrailingComment hf he⟩)) := by
  subst hd
  rw [parseFields, eat?_eq_none rfl hclosing]
  dsimp only
  rw [hend, if_neg Bool.false_ne_true]

theorem tokensOf_lead (f : Field) (pos : Position) :
    tokensOf pos f.lead = tokensOf pos (docPieces true f.docs) := by
  rw [Field.lead, tokensOf_append]
  exact List.append_nil _

theorem line_after_lead (f : Field) (pos : Position) :
    (pos.after (spell f.lead)).line = pos.line + (docLines f.docs).length := by
  have hcount : (spell [.indent]).count '\n' = 0 := by decide
  rw [Field.lead, spell_append, Position.after_append, Position.line_after, hcount,
    line_after_docPieces, Nat.add_zero]

theorem reads_parseFields {fields : List Field} (h : ∀ f ∈ fields, f.isPrintable)
    (hc : c.passed = []) (linePos pos : Position) :
    c.Reads (parseFields (c.jump line (⟨.newline, "\n", linePos⟩ ::
      (tokensOf pos (fields.flatMap Field.lines ++ [.sign Token.closeBrace]) ++ rest))))
      (Field.placed pos fields) rest := by
  induction fields generalizing line linePos pos with
  | nil =>
      rw [List.flatMap_nil, List.nil_append, tokensOf_sign, List.cons_append, parseFields,
        eat?_of_eq (skipTrivia_lineEnd_jump rfl _) rfl]
      exact ⟨_, _, rfl⟩
  | cons f fields ih =>
      obtain ⟨hf, hfields⟩ := List.forall_mem_cons.mp h
      let itemPos := pos.after (spell f.lead)
      let endPos := itemPos.after (spell f.item)
      let tail := tokensOf (pos.after (spell f.lines))
        (fields.flatMap Field.lines ++ [.sign Token.closeBrace]) ++ rest
      have htokens : tokensOf pos ((f :: fields).flatMap Field.lines ++
          [.sign Token.closeBrace]) ++ rest =
          tokensOf pos (docPieces true f.docs) ++
            (tokensOf itemPos f.item ++ ⟨.newline, "\n", endPos⟩ :: tail) := by
        rw [List.flatMap_cons, List.append_assoc, tokensOf_append, Field.lines, tokensOf_append,
          tokensOf_lead, tokensOf_append, List.append_assoc, List.append_assoc, List.append_assoc]
        rfl
      obtain ⟨t, more, hitem, hpos, hbegins⟩ := exists_beginsType_item hf itemPos
      have hgap : ∀ u ∈ [(⟨.newline, "\n", linePos⟩ : Token)], u.kind = .newline := by simp
      obtain ⟨line', hskip⟩ := skipTrivia_documented c line hgap true f.docs pos
        (more ++ ⟨.newline, "\n", endPos⟩ :: tail) hbegins.isTrivia_eq_false
      rw [← List.cons_append, ← hitem, List.singleton_append] at hskip
      let comments := (commentsFor pos.line (docLines f.docs)).reverse
      let d := (c.noting comments).jump line'
        (tokensOf itemPos f.item ++ ⟨.newline, "\n", endPos⟩ :: tail)
      have hcurrent : d.current = t := by
        rw [current, ahead, show d.rest = t :: (more ++ ⟨.newline, "\n", endPos⟩ :: tail) from
          congrArg (· ++ ⟨.newline, "\n", endPos⟩ :: tail) hitem]
        rfl
      have hline : t.pos.line = pos.line + (docLines f.docs).length := by
        rw [hpos, line_after_lead]
      have hclosing : d.current.is Token.closeBrace = false := by
        rw [hcurrent]
        exact hbegins.is_eq_false (by decide) (by decide)
      have hend : d.isAtEnd = false := by
        rw [isAtEnd, hcurrent]
        rcases hbegins with ⟨hkind, -⟩ | ⟨hkind, -⟩ <;> rw [hkind] <;> rfl
      have hfield : c.Reads (d.forget.parseFieldLine (d.docs d.current.pos.line))
          [{ f with pos := itemPos }] (⟨.newline, "\n", endPos⟩ :: tail) := by
        rw [hcurrent, forget_noting hc, docs_noting hc (Field.isDocumentation_docs hf) hline]
        exact reads_parseFieldLine hf itemPos endPos
      rw [htokens, parseFields_of_skipTrivia hskip hclosing hend]
      refine .bind hfield fun line he => ?_
      exact .bind (ih hfields endPos _) fun line hf => ⟨line, _, rfl⟩

theorem reads_parseStruct {fields : List Field} (h : ∀ f ∈ fields, f.isPrintable)
    (hc : c.passed = []) (bracePos linePos pos : Position) :
    c.Reads (parseStruct (c.jump line (⟨.punct, Token.openBrace, bracePos⟩ ::
      ⟨.newline, "\n", linePos⟩ ::
        (tokensOf pos (fields.flatMap Field.lines ++ [.sign Token.closeBrace]) ++ rest))))
      (Field.placed pos fields) rest := by
  have hfields : c.Reads (c.jump bracePos.line (⟨.newline, "\n", linePos⟩ :: (tokensOf pos
      (fields.flatMap Field.lines ++ [.sign Token.closeBrace]) ++ rest))).forget.parseFields
      (Field.placed pos fields) rest := by
    rw [forget_jump hc]
    exact reads_parseFields h hc linePos pos
  rw [parseStruct, expect_jump rfl, ok_bind]
  exact .bind hfields fun line he => ⟨line, _, rfl⟩

theorem reads_parseKind {kind : Declaration.Kind} (h : kind.isPrintable) (hc : c.passed = [])
    (pos endPos : Position) :
    c.Reads (parseKind (c.jump line (tokensOf pos kind.pieces ++ ⟨.newline, "\n", endPos⟩ :: rest)))
      (some (kind.placed pos)) (⟨.newline, "\n", endPos⟩ :: rest) := by
  cases kind with
  | record fields =>
      obtain ⟨bracePos, linePos, htokens⟩ :=
        tokensOf_bodyPieces "struct" (fields.flatMap Field.lines) pos
      rw [Declaration.Kind.pieces, htokens, List.cons_append, parseKind, eat?_jump rfl]
      exact .bind (reads_parseStruct (List.all_eq_true.mp h) hc _ _ _) fun line he => ⟨line, _, rfl⟩
  | defined type =>
      obtain ⟨t, more, htokens, -, hbegins⟩ := exists_beginsType h pos
      have hstruct : (c.jump line (tokensOf pos type.pieces ++
          ⟨.newline, "\n", endPos⟩ :: rest)).current.is "struct" = false := by
        rw [htokens]
        exact hbegins.is_eq_false (by decide) (by decide)
      have hinterface : (c.jump line (tokensOf pos type.pieces ++
          ⟨.newline, "\n", endPos⟩ :: rest)).current.is "interface" = false := by
        rw [htokens]
        exact hbegins.is_eq_false (by decide) (by decide)
      rw [Declaration.Kind.pieces, parseKind, eat?_eq_none rfl hstruct, eat?_eq_none rfl hinterface]
      exact .bind (reads_parseType h pos ⟨_, _, rfl, rfl, .inl rfl⟩) fun line he => ⟨line, _, rfl⟩
  | contract members => cases h

end Cursor

/-- The type of a declaration is neither an alias nor a list of type parameters. -/
theorem Cursor.begins_pieces {type : TypeExpr} (h : type.isPlain) {c : Cursor} {line : Nat}
    {pos : Position} {rest : List Token} :
    let e := c.jump line (tokensOf pos type.pieces ++ rest)
    e.current.is "=" = false ∧ e.beginsTypeParams = false := by
  intro e
  obtain ⟨t, more, htokens, -, hbegins⟩ := exists_beginsType h pos
  have hcurrent : e.current = t := by
    rw [current, ahead, show e.rest = t :: (more ++ rest) from congrArg (· ++ rest) htokens]
    rfl
  refine ⟨?_, ?_⟩
  · rw [hcurrent]
    exact hbegins.is_eq_false (by decide) (by decide)
  · have hname : ∀ name, isName name → (⟨.ident, name, pos⟩ : Token).is "[" = false :=
      fun name hname => is_word_eq_false hname (by decide) pos
    cases type with
    | named package? name =>
        obtain ⟨hpackage, hlocal⟩ := Bool.and_eq_true_iff.mp h
        have hbracket : e.current.is "[" = false := by
          cases package? with
          | none => exact hname name hlocal
          | some package => exact hname package hpackage
        rw [beginsTypeParams, hbracket]
        rfl
    | verbatim text => cases h
    | _ => rfl

/-! ## Reading declarations -/

namespace Declaration

theorem writable_text {d : Declaration} (h : d.isPrintable) : d.text.Writable := by
  simp only [isPrintable, Bool.and_eq_true] at h
  obtain ⟨⟨hname, hdocs⟩, hkind⟩ := h
  obtain ⟨name, docs, file, pos, kind⟩ := d
  cases kind with
  | record fields =>
      exact {
        name := hname
        docs := hdocs
        solid := fun rest => beginsSolid_bodyPieces (by decide) _ _
        fits := fun rest => fits_bodyPieces (by decide)
          (fits_flatMap fun f hf => Field.fits_lines (List.all_eq_true.mp hkind f hf)) _
        begins := fun c line pos rest => ⟨rfl, rfl⟩ }
  | defined type =>
      exact {
        name := hname
        docs := hdocs
        solid := fun rest => TypeExpr.beginsSolid_pieces hkind _
        fits := fun rest => TypeExpr.fits_pieces hkind (endsWord_cons (by decide) _)
        begins := fun c line pos rest => Cursor.begins_pieces hkind }
  | contract members => cases hkind

theorem readable_text {d : Declaration} (h : d.isPrintable) : d.text.Readable :=
  fun _ _ pos endPos _ hc => Cursor.reads_parseKind (Bool.and_eq_true_iff.mp h).2 hc pos endPos

theorem declarations_text (file : String) (pos : Position) (declarations : List Declaration) :
    TypeText.declarations file pos (declarations.map text) = placed file pos declarations := by
  induction declarations generalizing pos with
  | nil => rfl
  | cons d declarations ih =>
      rw [List.map_cons, TypeText.declarations, placed, ih]
      rfl

end Declaration

/-- A file with records and defined types is read as it is printed: it comes to the same
declarations, at the places of their names. -/
theorem value_ofText_declarations (file : String) {package : String} (hpackage : isName package)
    {declarations : List Declaration} (h : ∀ d ∈ declarations, d.isPrintable) :
    (File.ofText file (fileText package (declarations.map Declaration.text))).value =
      .ok ⟨package, Declaration.placed file (declarationsPos package) declarations⟩ := by
  rw [← Declaration.declarations_text]
  refine value_ofText_fileText file hpackage fun d hd => ?_
  obtain ⟨d, hmem, rfl⟩ := List.mem_map.mp hd
  exact ⟨Declaration.writable_text (h d hmem), Declaration.readable_text (h d hmem)⟩

/-- A record with an embedded field, documentation and a tag, and a defined type after it. -/
theorem value_ofText_shop :
    (File.ofText "shop.go" ("package shop\n" ++
      "\n// An order.\n//\n// It never changes.\ntype Order struct \x7b\n" ++
      "\t*store.Base\n" ++
      "\t// What is sold.\n\tItems map[string][]*Item \x60json:\"items\" db:\"-\"\x60\n" ++
      "\x7d\n" ++
      "\ntype Sum [32]byte\n")).value =
      .ok ⟨"shop", [
        ⟨"Order", "An order.\n\nIt never changes.", "shop.go", ⟨6, 6⟩, .record [
          ⟨none, .pointer (.named "store" "Base"), .empty, "", ⟨7, 2⟩⟩,
          ⟨some "Items", .map (.ofName "string") (.slice (.pointer (.ofName "Item"))),
            ⟨[("json", "items"), ("db", "-")]⟩, "What is sold.", ⟨9, 2⟩⟩]⟩,
        ⟨"Sum", "", "shop.go", ⟨12, 6⟩, .defined (.array "32" (.ofName "byte"))⟩]⟩ := by
  have htext : fileText "shop" (List.map Declaration.text [
      ⟨"Order", "An order.\n\nIt never changes.", "", .start, .record [
        ⟨none, .pointer (.named "store" "Base"), .empty, "", .start⟩,
        ⟨some "Items", .map (.ofName "string") (.slice (.pointer (.ofName "Item"))),
          ⟨[("json", "items"), ("db", "-")]⟩, "What is sold.", .start⟩]⟩,
      ⟨"Sum", "", "", .start, .defined (.array "32" (.ofName "byte"))⟩]) =
      "package shop\n" ++
      "\n// An order.\n//\n// It never changes.\ntype Order struct \x7b\n" ++
      "\t*store.Base\n" ++
      "\t// What is sold.\n\tItems map[string][]*Item \x60json:\"items\" db:\"-\"\x60\n" ++
      "\x7d\n" ++
      "\ntype Sum [32]byte\n" := by
    refine String.toList_inj.mp ?_
    rewrite [fileText, String.toList_ofList]
    simp only [String.toList_append, String.reduceToList]
    decide +kernel
  rw [← htext]
  exact value_ofText_declarations "shop.go" (by decide +kernel) (by decide +kernel)

end GoSchema.Go
