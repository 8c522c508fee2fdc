import GoSchema.Proofs.Schema.Layout
import GoSchema.Proofs.Text.Quoted

/-!
# Literals in documents

The texts that a document holds are written between quotes: the values of its options, the names,
casts and tags that fields keep of their source, and the paths of its imports.  Whoever reads the
schema has to get them back.  `Document.fragments` says where in the text of a document the literals
stand and what their values are, and `Spells` that a text is written that way.

All literals have their values, but for the imports: their paths are put between quotes as they are.
So the text of a document has the literals that it should have exactly when its import paths are
plain, without quotes, backslashes and control codes (`spells_emit`).
-/

namespace GoSchema.Schema

open Text Quoted

/-! ## Fragments -/

/-- A part of a written text. -/
inductive Fragment where
  /-- Text that is written as it is. -/
  | plain (text : String)
  /-- A literal that stands for a value. -/
  | literal (value : String)
deriving Repr, DecidableEq

/-- A text consists of fragments, where a literal may be any double-quoted one of its value. -/
inductive Spells : List Fragment → List Char → Prop
  | nil : Spells [] []
  | plain {text : String} {rest : List Fragment} {s : List Char} (h : Spells rest s) :
      Spells (.plain text :: rest) (text.toList ++ s)
  | literal {value : String} {written : List Char} {rest : List Fragment} {s : List Char}
      (hdecode : decode written = some value.toList) (h : Spells rest s) :
      Spells (.literal value :: rest) (written ++ s)

namespace Fragment

/-- A value between quotes as it is. -/
def enclosed (value : String) : Fragment := plain ("\"" ++ value ++ "\"")

/-- What is written of a fragment. -/
def written : Fragment → List Char
  | plain text => text.toList
  | literal value => encode value.toList

/-- What is written of fragments. -/
def text (fragments : List Fragment) : List Char := fragments.flatMap written

@[simp] theorem text_nil : text [] = [] := rfl

@[simp] theorem text_plain (s : String) (rest : List Fragment) :
    text (plain s :: rest) = s.toList ++ text rest := rfl

@[simp] theorem text_append (first rest : List Fragment) :
    text (first ++ rest) = text first ++ text rest := List.flatMap_append

/-- What is written of fragments spells them. -/
theorem spells_text (fragments : List Fragment) : Spells fragments (text fragments) := by
  induction fragments with
  | nil => exact .nil
  | cons fragment rest ih =>
      cases fragment with
      | plain s => exact .plain ih
      | literal value => exact .literal (decode_encode _) ih

end Fragment

/-! ## The fragments of a document -/

/-- The value of an option, which is a literal unless it is written bare. -/
def OptionValue.fragment (value : String) : Fragment :=
  if isBare value then .plain value else .literal value

namespace Field

/-- The extension options of a field with their values: what is kept of the source is literal. -/
def optionFragments (f : Field) : List (String × Fragment) :=
  (if f.extensions.embed then [(extensionOption "embed", .plain "true")] else []) ++
  (f.extensions.customName?.map fun s => (extensionOption "customname", .literal s)).toList ++
  (if f.type.isMessage && f.type.nonNullable then
    [(extensionOption "nullable", .plain "false")] else []) ++
  (f.type.castType?.map fun s => (extensionOption "casttype", .literal s)).toList ++
  (f.extensions.moreTags?.map fun s => (extensionOption "moretags", .literal s)).toList

/-- The declaration of a field. -/
def fragments (f : Field) : List Fragment :=
  .plain (f.label ++ f.type.name ++ " " ++ f.name ++ " = " ++ toString f.tag) ::
    if f.optionFragments.isEmpty then []
    else .plain " [" ::
      [.plain ", "].intercalate (f.optionFragments.map fun (key, value) =>
        [.plain (key ++ " = "), value]) ++ [.plain "]"]

end Field

namespace Line

/-- Documented members, each indented and on a line of its own. -/
def memberFragments (before? : Option String) : List (String × List Fragment) → List Fragment
  | [] => []
  | (docs, fragments) :: rest =>
    let separate := before?.any fun before => !(Comment.isBlank before && Comment.isBlank docs)
    .plain (String.ofList (text ((if separate then [blank] else []) ++ comments docs 1))) ::
      .plain (indent 1) :: fragments ++ .plain "\n" :: memberFragments (some docs) rest

/-- A documented item with a body of members. -/
def blockFragments (docs head : String) (body : List (String × List Fragment)) : List Fragment :=
  .plain (String.ofList (text (comments docs 0))) ::
    if body.isEmpty then [.plain (head ++ " \x7b\x7d\n")]
    else .plain (head ++ " \x7b\n") :: memberFragments none body ++ [.plain "\x7d\n"]

end Line

namespace Document

/-- Statements that end with semicolons, set apart from what is above them if there are any. -/
def sectionFragments : List (List Fragment) → List Fragment
  | [] => []
  | statements => .plain "\n" :: statements.flatMap fun statement => statement ++ [.plain ";\n"]

/-- What comes after the imports of a document.  Its literals are the values of options and what the
fields keep of their source. -/
def bodyFragments (doc : Document) : List Fragment :=
  sectionFragments (doc.options.entries.map fun (key, value) =>
    [.plain ("option " ++ key ++ " = "), OptionValue.fragment value]) ++
  doc.messages.flatMap (fun m => .plain "\n" :: Line.blockFragments m.docs ("message " ++ m.name)
    (m.fields.map fun f => (f.docs, f.fragments ++ [.plain ";"]))) ++
  [.plain (String.ofList (Line.text (doc.services.flatMap fun s => .blank :: s.lines)))]

/-- The text of a document, where import paths are written in a given way. -/
def fragments (importAs : String → Fragment) (doc : Document) : List Fragment :=
  .plain ("syntax = \"proto3\";\npackage " ++ doc.package ++ ";\n") ::
    (sectionFragments (doc.imports.toList.map fun path => [.plain "import ", importAs path]) ++
      doc.bodyFragments)

end Document

/-! ## What is written -/

theorem Fragment.text_intercalate (separator : List Fragment) (parts : List (List Fragment)) :
    text (separator.intercalate parts) = (text separator).intercalate (parts.map text) := by
  induction parts with
  | nil => rfl
  | cons first rest ih =>
      cases rest with
      | nil => simp [List.intercalate_singleton]
      | cons second rest =>
          rw [List.intercalate_cons_cons, text_append, text_append, ih, List.map_cons,
            List.map_cons, List.map_cons, List.intercalate_cons_cons]

theorem OptionValue.toList_render (value : String) :
    (render value).toList = (fragment value).written := by
  unfold render fragment
  split_ifs
  · rfl
  · exact String.toList_ofList

namespace Field

theorem options_eq_map (f : Field) :
    f.options = f.optionFragments.map fun option => (option.1, String.ofList option.2.written) := by
  have hkept (name : String) (kept? : Option String) :
      (kept?.map fun s => (name, quote s)).toList =
        ((kept?.map fun s => (name, Fragment.literal s)).toList).map fun option =>
          (option.1, String.ofList option.2.written) := by
    cases kept? <;> rfl
  have hflag (flag : Bool) (name value : String) :
      (if flag then [(name, value)] else []) =
        (if flag then [(name, Fragment.plain value)] else []).map fun option =>
          (option.1, String.ofList option.2.written) := by
    cases flag
    · rfl
    · simp [Fragment.written]
  rw [options, optionFragments, List.map_append, List.map_append, List.map_append,
    List.map_append, ← hkept, ← hkept, ← hkept, ← hflag, ← hflag]

theorem text_fragments (f : Field) : Fragment.text f.fragments = f.declaration.toList := by
  have hparts : (f.optionFragments.map fun (key, value) =>
      [Fragment.plain (key ++ " = "), value]).map Fragment.text =
        (f.options.map fun (key, value) => key ++ " = " ++ value).map String.toList := by
    rw [options_eq_map, List.map_map, List.map_map, List.map_map]
    refine List.map_congr_left fun option _ => ?_
    simp [Fragment.text, Fragment.written]
  have hempty : f.options.isEmpty = f.optionFragments.isEmpty := by
    rw [options_eq_map, List.isEmpty_map]
  rw [fragments, declaration, optionList, hempty]
  split_ifs
  · simp
  · simp [Fragment.text_intercalate, hparts, String.toList_intercalate]

end Field

namespace Line

theorem toList_render_code (depth : Nat) (s : String) :
    (code depth s).render.toList = (indent depth).toList ++ s.toList ++ ['\n'] := by
  simp [render]

theorem text_memberFragments (before? : Option String) (body : List (String × List Fragment)) :
    Fragment.text (memberFragments before? body) =
      text (members before? (body.map fun member =>
        (member.1, String.ofList (Fragment.text member.2)))) := by
  induction body generalizing before? with
  | nil => rfl
  | cons member rest ih =>
      simp [memberFragments, members, ih, toList_render_code]

theorem text_blockFragments (docs head : String) (body : List (String × List Fragment)) :
    Fragment.text (blockFragments docs head body) =
      text (block docs head (body.map fun member =>
        (member.1, String.ofList (Fragment.text member.2)))) := by
  have hindent : (indent 0).toList = [] := rfl
  unfold blockFragments block
  rw [List.isEmpty_map]
  split_ifs
  · simp [toList_render_code, hindent]
  · simp [toList_render_code, hindent, text_memberFragments]

end Line

namespace Document

private theorem text_statements (statements : List (List Fragment)) :
    Fragment.text (statements.flatMap fun statement => statement ++ [.plain ";\n"]) =
      Line.text (statements.map fun statement =>
        .code 0 (String.ofList (Fragment.text statement) ++ ";")) := by
  have hindent : (Line.indent 0).toList = [] := rfl
  induction statements with
  | nil => rfl
  | cons statement rest ih => simp [ih, Line.toList_render_code, hindent]

theorem text_sectionFragments (statements : List (List Fragment)) :
    Fragment.text (sectionFragments statements) =
      Line.text (sectionLines (statements.map fun statement =>
        String.ofList (Fragment.text statement) ++ ";")) := by
  cases statements with
  | nil => rfl
  | cons statement rest =>
      show "\n".toList ++ Fragment.text ((statement :: rest).flatMap _) =
        Line.text (.blank :: ((statement :: rest).map _).map (.code 0))
      rw [text_statements, Line.text_cons, List.map_map]
      rfl

theorem text_messageFragments (m : Message) :
    Fragment.text (Line.blockFragments m.docs ("message " ++ m.name)
      (m.fields.map fun f => (f.docs, f.fragments ++ [.plain ";"]))) = Line.text m.lines := by
  rw [Line.text_blockFragments, Message.lines, List.map_map]
  refine congrArg (fun body => Line.text (Line.block m.docs ("message " ++ m.name) body)) ?_
  refine List.map_congr_left fun f _ => ?_
  simp [Field.text_fragments]

theorem text_flatMap_messageFragments (messages : List Message) :
    Fragment.text (messages.flatMap fun m =>
      .plain "\n" :: Line.blockFragments m.docs ("message " ++ m.name)
        (m.fields.map fun f => (f.docs, f.fragments ++ [.plain ";"]))) =
      Line.text (messages.flatMap fun m => .blank :: m.lines) := by
  induction messages with
  | nil => rfl
  | cons m rest ih =>
      rw [List.flatMap_cons, List.flatMap_cons, Fragment.text_append, Line.text_append, ih,
        Fragment.text_plain, text_messageFragments, Line.text_cons]
      rfl

/-- The text of a document, with its import paths between quotes as they are. -/
theorem text_fragments (doc : Document) :
    Fragment.text (doc.fragments .enclosed) = doc.render.toList := by
  have hheader : ("syntax = \"proto3\";\npackage " ++ doc.package ++ ";\n").toList =
      Line.text [.code 0 "syntax = \"proto3\";", .code 0 ("package " ++ doc.package ++ ";")] := by
    simp [Line.toList_render_code, Line.indent]
  have himports : Fragment.text (sectionFragments
      (doc.imports.toList.map fun path => [.plain "import ", .enclosed path])) =
        Line.text (sectionLines (doc.imports.toList.map fun path =>
          "import \"" ++ path ++ "\";")) := by
    rw [text_sectionFragments, List.map_map]
    refine congrArg (fun texts => Line.text (sectionLines texts)) ?_
    exact List.map_congr_left fun path _ => String.toList_inj.mp (by simp [Fragment.enclosed])
  have hoptions : Fragment.text (sectionFragments (doc.options.entries.map fun (key, value) =>
      [.plain ("option " ++ key ++ " = "), OptionValue.fragment value])) =
        Line.text (sectionLines (doc.options.entries.map fun (key, value) =>
          "option " ++ key ++ " = " ++ OptionValue.render value ++ ";")) := by
    rw [text_sectionFragments, List.map_map]
    refine congrArg (fun texts => Line.text (sectionLines texts)) ?_
    refine List.map_congr_left fun option _ => String.toList_inj.mp ?_
    simp [OptionValue.toList_render, Fragment.text, Fragment.written]
  rw [toList_render, fragments, bodyFragments, lines]
  simp only [Fragment.text_append, Fragment.text_plain, Line.text_append, hheader, himports,
    hoptions, text_flatMap_messageFragments, String.toList_ofList, Fragment.text_nil,
    List.append_nil, List.append_assoc]

end Document

/-! ## Imports -/

theorem spells_plain_iff (text : String) {rest : List Fragment} {s : List Char} :
    Spells (.plain text :: rest) (text.toList ++ s) ↔ Spells rest s := by
  refine ⟨fun h => ?_, .plain⟩
  generalize hsame : text.toList ++ s = whole at h
  cases h with
  | plain h => rwa [List.append_cancel_left hsame]

/-- **The path of an import.**  It is a literal that stands for itself exactly when it is plain. -/
theorem spells_import_iff {path : String} {rest : List Fragment} {s : List Char} :
    Spells (.literal path :: .plain ";\n" :: rest)
      (Fragment.text [.enclosed path, .plain ";\n"] ++ s) ↔
        Plain path.toList ∧ Spells rest s := by
  have htext : Fragment.text [.enclosed path, .plain ";\n"] ++ s =
      '"' :: (path.toList ++ '"' :: ';' :: '\n' :: s) := by
    simp [Fragment.enclosed]
  rw [htext]
  constructor
  · intro h
    generalize hsame : '"' :: (path.toList ++ '"' :: ';' :: '\n' :: s) = whole at h
    cases h with
    | literal hdecode h =>
        obtain ⟨body, pieces, rfl, hbody, hjoin⟩ := decode_eq_some_iff.mp hdecode
        rw [List.cons_append, List.append_assoc, List.cons.injEq] at hsame
        obtain ⟨hplain, rfl⟩ := plain_of_spelling hbody hjoin hsame.2
        exact ⟨hplain, (spells_plain_iff _).mp h⟩
  · rintro ⟨hplain, h⟩
    have hdecode : decode ('"' :: (path.toList ++ ['"'])) = some path.toList := by
      rw [← encode_of_plain hplain, decode_encode]
    have hspells := Spells.literal hdecode ((spells_plain_iff ";\n").mpr h)
    simpa using hspells

theorem spells_imports_iff {paths : List String} {rest : List Fragment} {s : List Char} :
    Spells ((paths.flatMap fun path => [.plain "import ", .literal path, .plain ";\n"]) ++ rest)
      (Fragment.text (paths.flatMap fun path =>
        [.plain "import ", .enclosed path, .plain ";\n"]) ++ s) ↔
        (∀ path ∈ paths, Plain path.toList) ∧ Spells rest s := by
  induction paths with
  | nil => simp
  | cons path more ih =>
      rw [List.forall_mem_cons, and_assoc, ← ih, ← spells_import_iff, List.flatMap_cons,
        List.flatMap_cons, Fragment.text_append, List.append_assoc, List.append_assoc]
      exact spells_plain_iff "import "

namespace Document

theorem spells_importSection_iff {paths : List String} {rest : List Fragment} {s : List Char} :
    Spells (sectionFragments (paths.map fun path => [.plain "import ", .literal path]) ++ rest)
      (Fragment.text (sectionFragments (paths.map fun path =>
        [.plain "import ", .enclosed path])) ++ s) ↔
        (∀ path ∈ paths, Plain path.toList) ∧ Spells rest s := by
  cases paths with
  | nil => simp [sectionFragments]
  | cons path more =>
      have hsection (importAs : String → Fragment) :
          sectionFragments ((path :: more).map fun path => [.plain "import ", importAs path]) =
            .plain "\n" :: (path :: more).flatMap fun path =>
              [.plain "import ", importAs path, .plain ";\n"] :=
        congrArg (_ :: ·) (List.flatMap_map ..)
      rw [← spells_imports_iff, hsection, hsection, Fragment.text_plain, List.append_assoc]
      exact spells_plain_iff "\n"

theorem spells_fragments_iff (doc : Document) :
    Spells (doc.fragments .literal) (Fragment.text (doc.fragments .enclosed)) ↔
      ∀ path ∈ doc.imports.toList, Plain path.toList := by
  have hbody : Spells doc.bodyFragments (Fragment.text doc.bodyFragments) :=
    Fragment.spells_text _
  rw [fragments, fragments, Fragment.text_plain, spells_plain_iff, Fragment.text_append,
    spells_importSection_iff, and_iff_left hbody]

/-! ## The statement -/

/-- **Literals and their values.**  A document that verifies is written, and in its text the values
of options and what the fields keep of their source stand as literals.  So do the import paths if
all of them are plain, and not otherwise. -/
theorem spells_emit {doc : Document} (h : doc.verify = .ok ()) :
    ∃ text, doc.emit = .ok text ∧ Spells (doc.fragments .enclosed) text.toList ∧
      (Spells (doc.fragments .literal) text.toList ↔
        ∀ path ∈ doc.imports.toList, Plain path.toList) := by
  refine ⟨doc.render, by rw [emit, h]; rfl, ?_, ?_⟩
  · rw [← text_fragments]
    exact Fragment.spells_text _
  · rw [← text_fragments]
    exact doc.spells_fragments_iff

end Document

/-! ## Examples -/

/-- A document with literals of every kind. -/
def invoices : Document :=
  { (Document.empty "invoices.proto" "billing").addImport "billing/amount.proto" with
    options := .ofList [("go_package", "example.com/\"billing\""), ("optimize_for", "SPEED")]
    messages := [⟨"Invoice", "", [⟨"total", "", 1,
      { FieldType.scalar "string" with castType? := some "Amount\x7f" },
      ⟨some "Tötal", false, some "json:\"total\\n\" \t"⟩⟩]⟩] }

theorem spells_invoices :
    invoices.verify = .ok () ∧ ∃ text, invoices.emit = .ok text ∧
      Spells (invoices.fragments .literal) text.toList := by
  have hverify : invoices.verify = .ok () := by decide
  have hplain : ∀ path ∈ invoices.imports.toList, Plain path.toList := by decide
  obtain ⟨text, hemit, -, hspells⟩ := Document.spells_emit hverify
  exact ⟨hverify, text, hemit, hspells.mpr hplain⟩

/-- A document that imports a path with a backslash. -/
def backslashed : Document :=
  (Document.empty "shop.proto" "shop").addImport "billing\\amount.proto"

/-- **A path that is not read back.**  The backslash of the path is written as it is, and so it is
taken for the beginning of an escape. -/
theorem not_spells_backslashed :
    ∃ text, backslashed.emit = .ok text ∧
      ¬Spells (backslashed.fragments .literal) text.toList := by
  have hpath : ¬∀ path ∈ backslashed.imports.toList, Plain path.toList := by decide
  refine ⟨backslashed.render, rfl, ?_⟩
  rw [← Document.text_fragments, Document.spells_fragments_iff]
  exact hpath

end GoSchema.Schema
