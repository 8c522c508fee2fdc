import GoSchema.Proofs.Go.DocText
import GoSchema.Proofs.Go.Movement

/-!
# Files are read as they are printed

A printed file has its package clause on the first line and then one type declaration after another,
each below a blank line and below its documentation.  What stands between two declarations are line
ends and comments only, so that reading gets from one to the next.

The types of the declarations are a parameter here: a `TypeText` is what is written for one, and
`Readable` is that reading gives back what it says.  From this the whole file is read, by induction
on the declarations (`value_ofText_fileText`).  Up to the type in a declaration there is only one
way to read on (`value_parseRest_pieces`), also when the type is not read at all.
-/

namespace GoSchema.Go

open Lexeme

/-! ## Printing declarations -/

/-- A type declaration that is to be written: what stands for its type, and what this says if it
begins at a given place. -/
structure TypeText where
  docs : String
  name : String
  body : List Piece
  kindAt : Position → Declaration.Kind

namespace TypeText

/-- What stands before the name: a blank line, the documentation and the word `type`. -/
def lead (d : TypeText) : List Piece :=
  .lineEnd :: (docPieces false d.docs ++ [.word "type", .blank])

/-- The pieces of a declaration, up to the end of its last line. -/
def pieces (d : TypeText) : List Piece :=
  d.lead ++ .word d.name :: .blank :: (d.body ++ [.lineEnd])

/-- The place of the name, if the declaration is written from a given place on. -/
def namePos (d : TypeText) (pos : Position) : Position := pos.after (spell d.lead)

/-- The place of the type. -/
def bodyPos (d : TypeText) (pos : Position) : Position :=
  ((d.namePos pos).after d.name.toList).after [' ']

/-- The declaration that is written from a given place on. -/
def declaration (file : String) (pos : Position) (d : TypeText) : Declaration :=
  ⟨d.name, d.docs, file, d.namePos pos, d.kindAt (d.bodyPos pos)⟩

/-- The declarations that are written one after the other from a given place on. -/
def declarations (file : String) : Position → List TypeText → List Declaration
  | _, [] => []
  | pos, d :: more =>
    d.declaration file pos :: declarations file (pos.after (spell d.pieces)) more

/-- The declaration can be written so that its words are told apart and what follows its name is no
list of type parameters. -/
structure Writable (d : TypeText) : Prop where
  name : isName d.name
  docs : isDocumentation d.docs
  solid : ∀ rest, BeginsSolid (spell d.body ++ '\n' :: rest)
  fits : ∀ rest, Fits d.body ('\n' :: rest)
  begins : ∀ (c : Cursor) line pos rest,
    let e := c.jump line (tokensOf pos d.body ++ rest)
    e.current.is "=" = false ∧ e.beginsTypeParams = false

/-- Reading the body gives what it says. -/
def Readable (d : TypeText) : Prop :=
  ∀ (c : Cursor) line pos endPos rest, c.passed = [] →
    c.Reads (c.jump line (tokensOf pos d.body ++ ⟨.newline, "\n", endPos⟩ :: rest)).parseKind
      (some (d.kindAt pos)) (⟨.newline, "\n", endPos⟩ :: rest)

end TypeText

/-! ## Bodies in braces -/

/-- The first line of a body, after the word that says what it is. -/
def bodyHead (word : String) : List Piece :=
  [.word word, .blank, .sign Token.openBrace, .lineEnd]

/-- A body of some lines between braces, after the word that says what it is. -/
def bodyPieces (word : String) (lines : List Piece) : List Piece :=
  bodyHead word ++ (lines ++ [.sign Token.closeBrace])

theorem beginsSolid_bodyPieces {word : String} (hword : word ∈ keywords) (lines : List Piece)
    (rest : List Char) : BeginsSolid (spell (bodyPieces word lines) ++ rest) :=
  beginsSolid_word (isIdentifier_of_mem_keywords word hword) _ _

theorem fits_bodyPieces {word : String} (hword : word ∈ keywords) {lines : List Piece}
    (hlines : ∀ rest, Fits lines rest) (rest : List Char) : Fits (bodyPieces word lines) rest := by
  have hbrace : BeginsSolid (spell [.sign Token.openBrace, .lineEnd] ++
      (spell (lines ++ [.sign Token.closeBrace]) ++ rest)) := by
    rintro c ⟨⟩
    decide
  refine fits_append_iff.mpr ⟨⟨stands_keyword hword (endsWord_cons (by decide) _),
    stands_blank (by decide) hbrace, stands_sign (by decide) _, stands_lineEnd _, trivial⟩, ?_⟩
  exact fits_append_iff.mpr ⟨hlines _, stands_sign (by decide) _, trivial⟩

theorem tokensOf_bodyPieces (word : String) (lines : List Piece) (pos : Position) :
    ∃ bracePos linePos, tokensOf pos (bodyPieces word lines) =
      ⟨.ident, word, pos⟩ :: ⟨.punct, Token.openBrace, bracePos⟩ :: ⟨.newline, "\n", linePos⟩ ::
        tokensOf (pos.after (spell (bodyHead word))) (lines ++ [.sign Token.closeBrace]) := by
  rw [bodyPieces, tokensOf_append]
  exact ⟨_, _, rfl⟩

/-! ## Printing files -/

/-- The package clause of a file. -/
def packagePieces (package : String) : List Piece :=
  [.word "package", .blank, .word package, .lineEnd]

/-- The pieces of a file: its package clause and its declarations. -/
def filePieces (package : String) (declarations : List TypeText) : List Piece :=
  packagePieces package ++ declarations.flatMap TypeText.pieces

/-- The text of a file with some declarations. -/
def fileText (package : String) (declarations : List TypeText) : String :=
  String.ofList (spell (filePieces package declarations))

namespace TypeText

theorem fits_pieces {d : TypeText} (h : d.Writable) (rest : List Char) : Fits d.pieces rest := by
  have hname := isIdentifier_of_isName h.name
  refine fits_append_iff.mpr
    ⟨⟨stands_lineEnd _, fits_append_iff.mpr ⟨fits_docPieces _ _ _, ?_⟩⟩, ?_⟩
  · exact ⟨stands_keyword (by decide) (endsWord_cons (by decide) _),
      stands_blank (by decide) (beginsSolid_word hname _ _), trivial⟩
  · refine ⟨stands_word hname (endsWord_cons (by decide) _), stands_blank (by decide) ?_, ?_⟩
    · rw [spell_append, List.append_assoc]
      exact h.solid rest
    · exact fits_append_iff.mpr ⟨h.fits rest, stands_lineEnd _, trivial⟩

end TypeText

theorem fits_filePieces {package : String} (hpackage : isName package)
    {declarations : List TypeText} (h : ∀ d ∈ declarations, d.Writable) :
    Fits (filePieces package declarations) [] := by
  have hname := isIdentifier_of_isName hpackage
  refine fits_append_iff.mpr ⟨⟨?_, ?_, ?_, stands_lineEnd _, trivial⟩, ?_⟩
  · exact stands_keyword (by decide) (endsWord_cons (by decide) _)
  · exact stands_blank (by decide) (beginsSolid_word hname _ _)
  · exact stands_word hname (endsWord_cons (by decide) _)
  · exact fits_flatMap (fun d hd => TypeText.fits_pieces (h d hd)) _

/-! ## Reading files -/

namespace Cursor

variable {c : Cursor} {line : Nat} {t : Token} {rest tokens : List Token} {docs file : String}

/-- A declaration without type parameters is what its type makes of it. -/
theorem value_parseDeclaration (name : String) (pos : Position)
    (hassign : (c.jump pos.line tokens).current.is "=" = false)
    (hgeneric : (c.jump pos.line tokens).beginsTypeParams = false) :
    ((c.jump line (⟨.ident, name, pos⟩ :: tokens)).parseDeclaration file docs).value = (do
      let (kind?, ⟨f, hf⟩) ← (c.jump pos.line tokens).parseKind
      return (kind?.map fun kind => ⟨name, docs, file, pos, kind⟩,
        ⟨f, later_trans hf left_jump_lt⟩)) := by
  rw [value_parseDeclaration_eq, expectIdent_jump rfl, ok_bind]
  dsimp only
  rw [if_neg (Bool.eq_false_iff.mp hgeneric), eatIf_eq_false rfl hassign]

theorem value_parseRest_package {package? : Option String} (name : String) (pos pos' : Position)
    (hc : c.passed = []) :
    ((c.jump line (⟨.ident, "package", pos⟩ :: ⟨.ident, name, pos'⟩ :: tokens)).parseRest file
      package?).value = ((c.jump pos'.line tokens).parseRest file (some name)).value := by
  have hword : (⟨.ident, "package", pos⟩ : Token).is "package" := rfl
  rw [parseRest, next?_of_eq (skipTrivia_eq_self rfl) (by simp)]
  dsimp only
  rw [if_pos hword, expectIdent_jump rfl, Reading.value_bind, Reading.value_liftM, ok_bind]
  dsimp only
  rw [← forget_noting hc []]
  rfl

theorem value_parseRest_type {package? : Option String} (hc : c.passed = [])
    (hgap : ∀ u ∈ gap, u.kind = .newline) (hdocs : isDocumentation docs) (pos pos' : Position)
    (hpos : pos'.line = pos.line + (docLines docs).length) (name : Token)
    (hname : name.is "(" = false) :
    ((c.jump line (gap ++ (tokensOf pos (docPieces false docs) ++
      ⟨.ident, "type", pos'⟩ :: name :: tokens))).parseRest file package?).value = (do
        let (declaration?, ⟨d, _⟩) ←
          ((c.jump pos'.line (name :: tokens)).parseDeclaration file docs).value
        let (package?, more) ← (d.parseRest file package?).value
        return (package?, declaration?.toList ++ more)) := by
  obtain ⟨line', heq⟩ := skipTrivia_documented c line hgap false docs pos (name :: tokens)
    (t := ⟨.ident, "type", pos'⟩) rfl
  have hother : (⟨.ident, "type", pos'⟩ : Token).is "package" = false := rfl
  have hword : (⟨.ident, "type", pos'⟩ : Token).is "type" := rfl
  rw [parseRest, next?_of_eq heq (by simp)]
  dsimp only
  rw [hother, if_neg Bool.false_ne_true, if_pos hword, parseTypes, eat?_jump_eq_none hname]
  dsimp only
  rw [docs_noting hc hdocs hpos, ← forget_noting hc (commentsFor pos.line (docLines docs)).reverse]
  simp only [Reading.value_bind, bind_assoc]
  rfl

theorem value_parseRest_end {package? : Option String} (t : Token) (ht : t.kind = .newline)
    (pos : Position) :
    ((c.jump line [t, .atEnd pos]).parseRest file package?).value = .ok (package?, []) := by
  have htrivia : isTrivia t := by simp [isTrivia, ht]
  obtain ⟨line', heq⟩ := skipTrivia_jump c line (List.forall_mem_singleton.mpr htrivia) []
    (t := .atEnd pos) rfl
  rw [List.singleton_append] at heq
  have hnext : (c.jump line [t, .atEnd pos]).skipTrivia.next? = none := by
    rw [heq]
    rfl
  rw [parseRest, hnext]
  rfl

/-- The tokens of a declaration, with those of its type apart. -/
theorem tokensOf_pieces (d : TypeText) (pos : Position) :
    tokensOf pos d.pieces =
      ⟨.newline, "\n", pos⟩ :: (tokensOf (pos.after ['\n']) (docPieces false d.docs) ++
        ⟨.ident, "type", (pos.after ['\n']).after (spell (docPieces false d.docs))⟩ ::
          ⟨.ident, d.name, d.namePos pos⟩ :: (tokensOf (d.bodyPos pos) d.body ++
            [⟨.newline, "\n", (d.bodyPos pos).after (spell d.body)⟩])) := by
  have hlead : tokensOf pos d.lead =
      ⟨.newline, "\n", pos⟩ :: (tokensOf (pos.after ['\n']) (docPieces false d.docs) ++
        [⟨.ident, "type", (pos.after ['\n']).after (spell (docPieces false d.docs))⟩]) := by
    rw [TypeText.lead, tokensOf_lineEnd, tokensOf_append]
    rfl
  rw [TypeText.pieces, tokensOf_append, hlead, tokensOf_word, tokensOf_blank, tokensOf_append]
  simp [TypeText.namePos, TypeText.bodyPos]

theorem line_namePos (d : TypeText) (pos : Position) :
    (d.namePos pos).line =
      ((pos.after ['\n']).after (spell (docPieces false d.docs))).line := by
  have hlineEnd : Piece.lineEnd.text.toList = ['\n'] := rfl
  have hcount : (spell [.word "type", .blank]).count '\n' = 0 := by decide
  rw [TypeText.namePos, TypeText.lead, spell_cons, spell_append, Position.after_append,
    Position.after_append, Position.line_after, hcount, hlineEnd, Nat.add_zero]

/-- Reading comes from the line end before a declaration to the type in it. -/
theorem value_parseRest_pieces {d : TypeText} (hd : d.Writable) {package? : Option String}
    (hc : c.passed = []) (ht : t.kind = .newline) (pos : Position) :
    ((c.jump line (t :: (tokensOf pos d.pieces ++ rest))).parseRest file package?).value = (do
      let (kind?, ⟨e, _⟩) ← (c.jump (d.namePos pos).line (tokensOf (d.bodyPos pos) d.body ++
        ⟨.newline, "\n", (d.bodyPos pos).after (spell d.body)⟩ :: rest)).parseKind
      let (package?, more) ← (e.parseRest file package?).value
      return (package?,
        (kind?.map fun kind => ⟨d.name, d.docs, file, d.namePos pos, kind⟩).toList ++ more)) := by
  have hgap : ∀ u ∈ [t, (⟨.newline, "\n", pos⟩ : Token)], u.kind = .newline := by simp [ht]
  obtain ⟨hassign, hgeneric⟩ := hd.begins c (d.namePos pos).line (d.bodyPos pos)
    (⟨.newline, "\n", (d.bodyPos pos).after (spell d.body)⟩ :: rest)
  have hname : (⟨.ident, d.name, d.namePos pos⟩ : Token).is "(" = false :=
    is_word_eq_false hd.name (by decide) _
  have htokens : t :: (tokensOf pos d.pieces ++ rest) = [t, ⟨.newline, "\n", pos⟩] ++
      (tokensOf (pos.after ['\n']) (docPieces false d.docs) ++
        ⟨.ident, "type", (pos.after ['\n']).after (spell (docPieces false d.docs))⟩ ::
          ⟨.ident, d.name, d.namePos pos⟩ :: (tokensOf (d.bodyPos pos) d.body ++
            ⟨.newline, "\n", (d.bodyPos pos).after (spell d.body)⟩ :: rest)) := by
    rw [tokensOf_pieces]
    simp
  rw [htokens, value_parseRest_type hc hgap hd.docs _ _ (line_after_docPieces _ _ _) _ hname,
    value_parseDeclaration _ _ hassign hgeneric, bind_assoc, line_namePos]
  exact congrArg _ (funext fun ⟨kind?, e, he⟩ => rfl)

theorem value_parseRest_declarations {declarations : List TypeText}
    (h : ∀ d ∈ declarations, d.Writable ∧ d.Readable) {package? : Option String}
    (hc : c.passed = []) (ht : t.kind = .newline) (pos finish : Position) :
    ((c.jump line (t :: (tokensOf pos (declarations.flatMap TypeText.pieces) ++
      [.atEnd finish]))).parseRest file package?).value =
      .ok (package?, TypeText.declarations file pos declarations) := by
  induction declarations generalizing line t pos with
  | nil => exact value_parseRest_end t ht finish
  | cons d declarations ih =>
      obtain ⟨⟨hd, hread⟩, hdeclarations⟩ := List.forall_mem_cons.mp h
      rw [List.flatMap_cons, tokensOf_append, List.append_assoc, value_parseRest_pieces hd hc ht]
      obtain ⟨line', h', heq⟩ := hread c (d.namePos pos).line (d.bodyPos pos)
        ((d.bodyPos pos).after (spell d.body))
        (tokensOf (pos.after (spell d.pieces)) (declarations.flatMap TypeText.pieces) ++
          [.atEnd finish]) hc
      rw [heq, ok_bind]
      dsimp only
      rw [ih hdeclarations rfl]
      rfl

end Cursor

/-! ## Whole files -/

/-- The place after the package clause. -/
def declarationsPos (package : String) : Position := .after .start (spell (packagePieces package))

/-- A file is read from the line end after its package clause on. -/
theorem value_ofText (file : String) {package : String} (hpackage : isName package)
    {declarations : List TypeText} (h : ∀ d ∈ declarations, d.Writable) :
    ∃ (c : Cursor) (line : Nat) (t : Token) (finish : Position), c.passed = [] ∧ t.kind = .newline ∧
      (File.ofText file (fileText package declarations)).value = (do
        let (package?, read) ← ((c.jump line (t :: (tokensOf (declarationsPos package)
          (declarations.flatMap TypeText.pieces) ++ [.atEnd finish]))).parseRest file
            (some package)).value
        match package? with
        | some package => return ⟨package, read⟩
        | none => throw ⟨.missingPackage, .start⟩) := by
  let finish := Position.start.after (spell (filePieces package declarations))
  let packagePos := (Position.start.after "package".toList).after [' ']
  let lineEnd : Token := ⟨.newline, "\n", packagePos.after package.toList⟩
  let rest := tokensOf (declarationsPos package) (declarations.flatMap TypeText.pieces)
  have htokens : tokensOf .start (filePieces package declarations) =
      ⟨.ident, "package", .start⟩ :: ⟨.ident, package, packagePos⟩ :: lineEnd :: rest := by
    rw [filePieces, tokensOf_append]
    rfl
  have hscan := scan_spell (fits_filePieces hpackage h)
  rw [htokens, ← fileText] at hscan
  let c : Cursor := .ofTokens (⟨.ident, "package", .start⟩ :: ⟨.ident, package, packagePos⟩ ::
    lineEnd :: (rest ++ [.atEnd finish]))
  refine ⟨c, packagePos.line, lineEnd, finish, rfl, rfl, ?_⟩
  have hclause : (c.parseRest file none).value =
      ((c.jump packagePos.line (lineEnd :: (rest ++ [.atEnd finish]))).parseRest file
        (some package)).value := Cursor.value_parseRest_package (c := c) _ _ _ rfl
  rw [← hclause, File.ofText, Reading.value_bind, Reading.value_liftM, hscan, Cursor.ok_bind,
    File.ofTokens, Reading.value_bind]
  refine congrArg _ (funext fun ⟨package?, read⟩ => ?_)
  cases package? <;> rfl

/-- A file is read as it is printed. -/
theorem value_ofText_fileText (file : String) {package : String} (hpackage : isName package)
    {declarations : List TypeText} (h : ∀ d ∈ declarations, d.Writable ∧ d.Readable) :
    (File.ofText file (fileText package declarations)).value =
      .ok ⟨package, TypeText.declarations file (declarationsPos package) declarations⟩ := by
  obtain ⟨c, line, t, finish, hc, ht, heq⟩ := value_ofText file hpackage fun d hd => (h d hd).1
  rw [heq, Cursor.value_parseRest_declarations h hc ht]
  rfl

end GoSchema.Go
