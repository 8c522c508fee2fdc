import GoSchema.File.Path
import GoSchema.Mapping.Service
import GoSchema.Package
import GoSchema.Pattern.Basic
import GoSchema.Schema.Emit

/-!
# From a package to its documents

The records and contracts of a package that are meant for others are selected, each is given a
document, and the documents are built one declaration after the other. The first failure ends the
work.
-/

namespace GoSchema.Mapping

open Schema Go

/-- How declarations are spread over documents. -/
inductive Grouping where
  /-- One document for the whole package. -/
  | single
  /-- One document for each source file. -/
  | perFile
deriving Repr, DecidableEq

/-- What can be chosen about the documents of a package. -/
structure Options where
  /-- The package of the documents, if it is not the package of the sources. -/
  package? : Option String
  /-- Which declarations to take, by their names. -/
  filter : Pattern
  overrides : Overrides
  grouping : Grouping
  /-- Options that every document sets. -/
  fileOptions : TextMap String
  /-- The name of a single document, if it is not named after the package. -/
  outputName? : Option String

/-- Everything in one document, with the well-known overrides. -/
def Options.standard : Options :=
  ⟨none, Pattern.always, Overrides.wellKnown, .single, .empty, none⟩

/-! ## Selecting -/

/-- Whether a declaration stands in for another one in tests, by its name or by its file. -/
def isTestDouble (d : Declaration) : Bool :=
  (File.Path.ofString d.file).fileStem?.any (fun stem => "_test".toList.isSuffixOf stem.toList) ||
    Naming.isTestDoubleName d.name

/-- Whether a declaration gets a message or a service, whatever the filter says. -/
def isEligible (d : Declaration) : Bool :=
  match d.kind with
  | .defined _ => false
  | _ => d.isExported && !Naming.isErrorName d.name && !isTestDouble d

/-- The declarations to take, in their order. -/
def select (filter : Pattern) (declarations : List Declaration) : List Declaration :=
  declarations.filter fun d => isEligible d && filter.occursIn d.name

/-! ## Placing -/

/-- The name of the document that a declaration goes to. -/
def documentName (options : Options) (package : String) (d : Declaration) : String :=
  match options.grouping with
  | .single => options.outputName?.getD (package ++ ".proto")
  | .perFile => ((File.Path.ofString d.file).fileStem?.getD package) ++ ".proto"

/-- A declaration and the name of its document. -/
abbrev Placement := List (Declaration × String)

/-- The selected declarations of a package with their documents. -/
def placement (options : Options) (module : Module) : Placement :=
  (select options.filter module.declarations).map fun d =>
    (d, documentName options module.name d)

/-- Which document declares the message of each record. -/
def originsOf (placed : Placement) : TextMap String :=
  .ofList <| placed.filterMap fun (d, document) =>
    match d.kind with
    | .record _ => some (d.name, document)
    | _ => none

/-- The mapper for a package whose declarations are placed. -/
def mapperFor (options : Options) (module : Module) : Mapper :=
  ⟨module, originsOf (placement options module), options.overrides⟩

/-! ## Building -/

/-- Documents by their names. -/
abbrev Documents := TextMap Document

/-- A document without messages and services. -/
def newDocument (options : Options) (module : Module) (name : String) : Document :=
  { Document.empty name (options.package?.getD module.name) with options := options.fileOptions }

/-- Adds what a declaration becomes to its document. -/
def addDeclaration (m : Mapper) (d : Declaration) : Building Unit :=
  match d.kind with
  | .record fields => do let _ ← Building.record m d.name d.docs fields
  | .contract members => do let _ ← Building.contract m d.name d.docs members
  | .defined _ => return ()

/-- Adds a placed declaration to the documents; its document begins with the first of its
declarations. -/
def addPlaced (options : Options) (module : Module) (m : Mapper) (documents : Documents)
    (placed : Declaration × String) : Making Documents := do
  let doc := (documents.get? placed.2).getD (newDocument options module placed.2)
  match ← (addDeclaration m placed.1).run.run doc with
  | (.ok (), doc) => return documents.insert placed.2 doc
  | (.error refusal, _) => throw refusal

/-- The documents of a package. -/
def documents (options : Options) (module : Module) : Making Documents := do
  let placed := placement options module
  Logged.report (.selection module.name placed.length module.declarations.length)
  placed.foldlM (addPlaced options module (mapperFor options module)) .empty

/-- The texts of documents by their names. None is written unless all of them can be. -/
def render (documents : Documents) : Except Refusal (List (String × String)) :=
  documents.entries.mapM fun (name, doc) =>
    match doc.emit with
    | .ok text => .ok (name, text)
    | .error problem => .error ⟨name, problem⟩

end GoSchema.Mapping
