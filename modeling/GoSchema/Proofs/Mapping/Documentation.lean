import GoSchema.Proofs.Mapping.Content
import GoSchema.Proofs.Schema.Documentation

/-!
# Documentation and the schema

Comments on declarations, fields and methods are carried into the documents of a package.  This
file asks whether they do anything else there.  Erasing them from a package erases them from its
documents, message by message and field by field, because names, types and imports are computed
without them (`translation_eraseDocs`).

There is one place where they are looked at.  A message that is added twice has to have the same
fields both times, and a field is compared with its documentation.  A comment on a field can
therefore turn a message that is merely repeated into one that is in conflict.  `FieldDocsAgree`
says that this does not happen, and it is the only thing that a translation asks of the
documentation (`exists_translation_iff`).

## Strategy

Each function from a declaration to its additions commutes with erasing: the fields of a message,
the messages that stand for the members of a method, which have no documentation at all, and the
additions of a contract.  Compatible additions stay compatible, and the document that they make is
the erased one.
-/

namespace GoSchema.Go

/-! ## Erasing documentation -/

/-- A field of a struct without its documentation. -/
def Field.eraseDocs (f : Field) : Field := { f with docs := "" }

/-- A member of an interface without its documentation. -/
def Member.eraseDocs : Member → Member
  | method name params results _ pos => method name params results "" pos
  | embedded type? _ pos => embedded type? "" pos

/-- What is declared, without the documentation of fields and members. -/
def Declaration.Kind.eraseDocs : Declaration.Kind → Declaration.Kind
  | record fields => record (fields.map Field.eraseDocs)
  | contract members => contract (members.map Member.eraseDocs)
  | defined type => defined type

/-- A declaration without its documentation and that of its fields or members. -/
def Declaration.eraseDocs (d : Declaration) : Declaration :=
  { d with docs := "", kind := d.kind.eraseDocs }

/-- A package without the documentation of its declarations, fields and methods. -/
def Module.eraseDocs (module : Module) : Module :=
  { module with declarations := module.declarations.map Declaration.eraseDocs }

end GoSchema.Go

namespace GoSchema.Schema

/-- Fields are told apart by their documentation and by what is left without it. -/
theorem fields_eq_iff {first second : List Field} :
    first = second ↔ first.map Field.eraseDocs = second.map Field.eraseDocs ∧
      first.map Field.docs = second.map Field.docs := by
  constructor
  · rintro rfl
    exact ⟨rfl, rfl⟩
  · rintro ⟨herased, hdocs⟩
    induction first generalizing second with
    | nil => exact (List.map_eq_nil_iff.mp herased.symm).symm
    | cons f rest ih =>
        cases second with
        | nil => cases herased
        | cons g more =>
            obtain ⟨hf, hrest⟩ := List.cons.inj herased
            obtain ⟨hfdocs, hrestDocs⟩ := List.cons.inj hdocs
            rw [ih hrest hrestDocs]
            cases f
            cases g
            simp_all [Field.eraseDocs]

end GoSchema.Schema

namespace GoSchema.Mapping

open Schema Go

/-! ## Messages -/

namespace Mapper

variable {m : Mapper}

theorem value_fields_eraseDocs (record : String) (tag : Nat) (sources : List Go.Field) :
    (m.fields record tag (sources.map Go.Field.eraseDocs)).value =
      (m.fields record tag sources).value.map (List.map Schema.Field.eraseDocs) :=
  value_fields_map Go.Field.eraseDocs Schema.Field.eraseDocs (fun _ => rfl) (fun _ _ _ => rfl)
    (fun _ => rfl) (fun _ => rfl) record tag sources

theorem value_message_eraseDocs (name docs : String) (sources : List Go.Field) :
    (m.message name "" (sources.map Go.Field.eraseDocs)).value =
      (m.message name docs sources).value.map Message.eraseDocs := by
  rw [value_message, value_message, value_fields_eraseDocs]
  cases (m.fields name 1 sources).value <;> rfl

end Mapper

/-! ## Methods -/

/-- Without documentation, for what stands for the members of a method. -/
def Reduction.eraseDocs : Reduction → Reduction
  | reuse type => reuse type
  | wrap message => wrap message.eraseDocs

/-- A method without its documentation, for which messages without documentation stand. -/
def Rpc.eraseDocs (r : Rpc) : Rpc :=
  ⟨r.name, "", r.argument.eraseDocs, r.returns.eraseDocs⟩

/-- What is added to a document, without its documentation. -/
def Addition.eraseDocs : Addition → Addition
  | message msg => message msg.eraseDocs
  | reuse type => reuse type
  | service svc => service svc.eraseDocs

namespace Mapper

variable {m : Mapper}

private theorem map_eraseDocs_wrapperFields (used : List String) (members : List Param) :
    (wrapperFields used members).map Go.Field.eraseDocs = wrapperFields used members := by
  induction members generalizing used with
  | nil => rfl
  | cons member rest ih =>
      rw [wrapperFields, List.map_cons, ih]
      rfl

/-- The messages made for methods have no documentation. -/
theorem value_reduce_eraseDocs (wrapperName : String) (members : List Param) :
    (m.reduce wrapperName members).value.map Reduction.eraseDocs =
      (m.reduce wrapperName members).value := by
  have hwrapper (name : String) (members : List Param) :
      (m.message name "" (wrapperFields [] members)).value.map Message.eraseDocs =
        (m.message name "" (wrapperFields [] members)).value := by
    rw [← value_message_eraseDocs, map_eraseDocs_wrapperFields]
  have hlist (element : String) (type : TypeExpr) :
      (m.listMessage element type).value.map Message.eraseDocs =
        (m.listMessage element type).value :=
    (value_message_eraseDocs ..).symm
  have hwrap {x : Except Refusal Message} (hx : x.map Message.eraseDocs = x) :
      (x.map Reduction.wrap).map Reduction.eraseDocs = x.map Reduction.wrap := by
    rw [← hx]
    cases x with
    | error refusal => rfl
    | ok message =>
        have hmessage : message.eraseDocs = message := Except.ok.inj hx
        simp only [Except.map, Reduction.eraseDocs, hmessage]
  by_cases hsingle : ∃ only, members = [only]
  · obtain ⟨only, rfl⟩ := hsingle
    rw [value_reduce_singleton]
    -- a list, a message in itself, and a wrapper
    split_ifs
    · exact hwrap (hlist _ _)
    · rfl
    · exact hwrap (hwrapper _ _)
  · rw [value_reduce_of_ne_singleton m wrapperName fun only hsame => hsingle ⟨only, hsame⟩]
    exact hwrap (hwrapper _ _)

theorem rpc_eraseDocs (stem name docs : String) (params results : List Param) :
    m.rpc stem name "" params results =
      (m.rpc stem name docs params results).map Rpc.eraseDocs := by
  have hargument := value_reduce_eraseDocs (m := m) (stem ++ name ++ argumentSuffix)
    (withoutContext params)
  have hreturns := value_reduce_eraseDocs (m := m) (stem ++ name ++ returnSuffix)
    (withoutError results)
  unfold rpc
  -- where both reductions succeed, erasing changes neither of them
  cases h : (m.reduce (stem ++ name ++ argumentSuffix) (withoutContext params)).value with
  | error refusal => rfl
  | ok argument =>
      cases h' : (m.reduce (stem ++ name ++ returnSuffix) (withoutError results)).value with
      | error refusal => rfl
      | ok returns =>
          rw [h] at hargument
          rw [h'] at hreturns
          show Except.ok (⟨name, "", argument, returns⟩ : Rpc) =
            .ok ⟨name, "", argument.eraseDocs, returns.eraseDocs⟩
          rw [Except.ok.inj hargument, Except.ok.inj hreturns]

theorem rpcs_eraseDocs (stem : String) (members : List Member) :
    m.rpcs stem (members.map Member.eraseDocs) =
      (m.rpcs stem members).map (List.map Rpc.eraseDocs) := by
  induction members with
  | nil => rfl
  | cons member rest ih =>
      cases member with
      | embedded type? docs pos => exact ih
      | method name params results docs pos =>
          rw [List.map_cons, Member.eraseDocs, rpcs, rpcs, ih, rpc_eraseDocs stem name docs]
          cases m.rpc stem name docs params results with
          | error refusal => rfl
          | ok rpc => cases m.rpcs stem rest <;> rfl

private theorem addition_eraseDocs (r : Reduction) :
    r.eraseDocs.addition = r.addition.eraseDocs := by
  cases r <;> rfl

private theorem contractAdditions_eraseDocs (stem docs : String) (rpcs : List Rpc) :
    contractAdditions stem "" (rpcs.map Rpc.eraseDocs) =
      (contractAdditions stem docs rpcs).map Addition.eraseDocs := by
  have hname (r : Reduction) : r.eraseDocs.name = r.name := by cases r <;> rfl
  have hmethod (rpc : Rpc) : rpc.eraseDocs.method = rpc.method.eraseDocs := by
    simp only [Rpc.method, Rpc.eraseDocs, Method.eraseDocs, hname]
  have hadditions (rpc : Rpc) : rpc.eraseDocs.additions = rpc.additions.map Addition.eraseDocs := by
    simp only [Rpc.additions, Rpc.eraseDocs, List.map_cons, List.map_nil, addition_eraseDocs]
  refine contractAdditions_map hadditions ?_
  simp only [Addition.eraseDocs, Service.eraseDocs, List.map_map, Function.comp_def, hmethod]

/-- What a declaration adds without its documentation. -/
theorem additions_eraseDocs (d : Declaration) :
    m.additions d.eraseDocs = (m.additions d).map (List.map Addition.eraseDocs) := by
  unfold additions Declaration.eraseDocs
  cases hkind : d.kind with
  | record fields =>
      simp only [Declaration.Kind.eraseDocs, value_message_eraseDocs d.name d.docs]
      cases (m.message d.name d.docs fields).value <;> rfl
  | contract members =>
      simp only [Declaration.Kind.eraseDocs, rpcs_eraseDocs]
      cases m.rpcs (Naming.serviceStem d.name) members with
      | error refusal => rfl
      | ok rpcs => exact congrArg Except.ok (contractAdditions_eraseDocs _ d.docs rpcs)
  | defined type => rfl

end Mapper

/-! ## Documents -/

section Assembly

variable {additions : List Addition}

theorem messagesOf_map_eraseDocs (additions : List Addition) :
    messagesOf (additions.map Addition.eraseDocs) =
      (messagesOf additions).map Message.eraseDocs := by
  rw [messagesOf, messagesOf, List.filterMap_map, List.map_filterMap]
  exact List.filterMap_congr fun a _ => by cases a <;> rfl

theorem servicesOf_map_eraseDocs (additions : List Addition) :
    servicesOf (additions.map Addition.eraseDocs) =
      (servicesOf additions).map Service.eraseDocs := by
  rw [servicesOf, servicesOf, List.filterMap_map, List.map_filterMap]
  exact List.filterMap_congr fun a _ => by cases a <;> rfl

theorem firsts_map_eraseDocs (messages : List Message) :
    firsts (messages.map Message.eraseDocs) = (firsts messages).map Message.eraseDocs := by
  induction messages using List.reverseRecOn with
  | nil => rfl
  | append_singleton messages msg ih =>
      rw [List.map_append, List.map_singleton, firsts_append_singleton, firsts_append_singleton, ih,
        addFirst, addFirst, List.find?_map]
      have hname : ((fun h : Message => h.name == msg.eraseDocs.name) ∘ Message.eraseDocs) =
          fun h => h.name == msg.name := rfl
      rw [hname]
      -- the name decides whether the message is kept, and it is the same
      cases (firsts messages).find? fun h => h.name == msg.name with
      | some held => rfl
      | none =>
          show (firsts messages).map Message.eraseDocs ++ [msg.eraseDocs] =
            (firsts messages ++ [msg]).map Message.eraseDocs
          rw [List.map_append, List.map_singleton]

/-- What a message imports does not depend on its documentation. -/
theorem importsOf_eraseDocs (msg : Message) : importsOf msg.eraseDocs = importsOf msg := by
  simp only [importsOf, Message.eraseDocs, List.filterMap_map, List.any_map]
  rfl

theorem eraseDocs_assemble (new : Document) (additions : List Addition) :
    (assemble new additions).eraseDocs = assemble new (additions.map Addition.eraseDocs) := by
  have himports (a : Addition) : a.eraseDocs.imports = a.imports := by
    cases a with
    | message msg => exact importsOf_eraseDocs msg
    | reuse type => rfl
    | service svc => rfl
  simp only [assemble, Document.eraseDocs, messagesOf_map_eraseDocs, servicesOf_map_eraseDocs,
    firsts_map_eraseDocs, List.flatMap_map, himports]

/-- Messages of one name have the same documentation on their fields. -/
def DocsAgree (messages : List Message) : Prop :=
  ∀ first ∈ messages, ∀ second ∈ messages, first.name = second.name →
    first.fields.map Schema.Field.docs = second.fields.map Schema.Field.docs

/-- There is room for additions exactly when there is without documentation and the documentation
of repeated messages agrees. -/
theorem compatible_iff_eraseDocs :
    Compatible additions ↔
      Compatible (additions.map Addition.eraseDocs) ∧ DocsAgree (messagesOf additions) := by
  have hservices : ((servicesOf additions).map Service.eraseDocs).map Service.name =
      (servicesOf additions).map Service.name := by
    rw [List.map_map]
    rfl
  rw [compatible_iff, compatible_iff, messagesOf_map_eraseDocs, servicesOf_map_eraseDocs, hservices]
  have hfields : FieldsAgree (messagesOf additions) ↔
      FieldsAgree ((messagesOf additions).map Message.eraseDocs) ∧
        DocsAgree (messagesOf additions) := by
    constructor
    · refine fun h => ⟨?_, fun first hfirst second hsecond hname => ?_⟩
      · simp only [FieldsAgree, List.forall_mem_map]
        exact fun first hfirst second hsecond hname =>
          congrArg (List.map Schema.Field.eraseDocs) (h first hfirst second hsecond hname)
      · exact congrArg (List.map Schema.Field.docs) (h first hfirst second hsecond hname)
    · rintro ⟨herased, hdocs⟩ first hfirst second hsecond hname
      exact fields_eq_iff.mpr ⟨herased _ (List.mem_map_of_mem hfirst) _
        (List.mem_map_of_mem hsecond) hname, hdocs first hfirst second hsecond hname⟩
  rw [hfields]
  exact and_right_comm

end Assembly

/-! ## Packages -/

section Packages

variable {options : Options} {module module' : Module}

theorem select_eraseDocs (filter : Pattern) (declarations : List Declaration) :
    select filter (declarations.map Declaration.eraseDocs) =
      (select filter declarations).map Declaration.eraseDocs := by
  have heligible (d : Declaration) : isEligible d.eraseDocs = isEligible d := by
    unfold isEligible Declaration.eraseDocs
    cases d.kind <;> rfl
  rw [select, select, List.filter_map]
  refine congrArg _ (List.filter_congr fun d _ => ?_)
  show (isEligible d.eraseDocs && _) = _
  rw [heligible]
  rfl

/-- Declarations are placed without regard to their documentation. -/
theorem placement_eraseDocs (options : Options) (module : Module) :
    placement options module.eraseDocs =
      (placement options module).map fun p => (p.1.eraseDocs, p.2) := by
  show (select options.filter (module.declarations.map Declaration.eraseDocs)).map _ = _
  rw [select_eraseDocs, placement, List.map_map, List.map_map]
  rfl

private theorem lookup?_eraseDocs (module : Module) (name : String) :
    module.eraseDocs.lookup? name = (module.lookup? name).map Declaration.eraseDocs := by
  show (module.declarations.map Declaration.eraseDocs).reverse.find? _ = _
  rw [← List.map_reverse, List.find?_map]
  rfl

/-- Mappers agree on a package with and without its documentation. -/
theorem mapperFor_eraseDocs_agree (options : Options) (module : Module) :
    (mapperFor options module.eraseDocs).Agree (mapperFor options module) where
  name_eq := rfl
  overrides_eq := rfl
  shape_eq name := by
    have hshape : (fun d : Declaration => d.kind.shape) ∘ Declaration.eraseDocs =
        fun d => d.kind.shape := by
      funext d
      show d.kind.eraseDocs.shape = d.kind.shape
      cases d.kind <;> rfl
    show (module.eraseDocs.lookup? name).map _ = _
    rw [lookup?_eraseDocs, Option.map_map, hshape]
    rfl
  origins_eq := by
    show originsOf (placement options module.eraseDocs) = originsOf (placement options module)
    rw [placement_eraseDocs, originsOf, originsOf, List.filterMap_map]
    refine congrArg _ (List.filterMap_congr fun p _ => ?_)
    obtain ⟨⟨name, docs, file, pos, kind⟩, document⟩ := p
    cases kind <;> rfl

theorem additions_mapperFor_eraseDocs (options : Options) (module : Module) (d : Declaration) :
    (mapperFor options module.eraseDocs).additions d.eraseDocs =
      ((mapperFor options module).additions d).map (List.map Addition.eraseDocs) := by
  rw [Mapper.additions_congr (mapperFor_eraseDocs_agree options module).resolve_eq,
    Mapper.additions_eraseDocs]

theorem addedAt_eraseDocs (options : Options) (module : Module) (name : String) :
    (mapperFor options module.eraseDocs).addedAt (placement options module.eraseDocs) name =
      ((mapperFor options module).addedAt (placement options module) name).map
        Addition.eraseDocs := by
  have hadded (d : Declaration) : (mapperFor options module.eraseDocs).added d.eraseDocs =
      ((mapperFor options module).added d).map Addition.eraseDocs := by
    rw [Mapper.added, Mapper.added, additions_mapperFor_eraseDocs]
    cases (mapperFor options module).additions d <;> rfl
  rw [placement_eraseDocs, Mapper.addedAt, Mapper.addedAt, List.filter_map, List.flatMap_map,
    List.map_flatMap]
  simp only [hadded]
  rfl

/-- In each document, messages that are added under one name have the same documentation on their
fields. -/
def FieldDocsAgree (options : Options) (module : Module) : Prop :=
  ∀ name, DocsAgree (messagesOf
    ((mapperFor options module).addedAt (placement options module) name))

/-- A package is accepted exactly when it is without documentation and the documentation of its
fields agrees. -/
theorem accepts_iff_eraseDocs :
    (mapperFor options module).Accepts (placement options module) ↔
      (mapperFor options module.eraseDocs).Accepts (placement options module.eraseDocs) ∧
        FieldDocsAgree options module := by
  have hadditions (d : Declaration) :
      (∃ additions, (mapperFor options module.eraseDocs).additions d.eraseDocs = .ok additions) ↔
        ∃ additions, (mapperFor options module).additions d = .ok additions := by
    rw [additions_mapperFor_eraseDocs]
    cases (mapperFor options module).additions d <;> simp [Except.map]
  constructor
  · rintro ⟨hexists, hcompatible⟩
    refine ⟨⟨?_, fun name => ?_⟩, fun name => (compatible_iff_eraseDocs.mp (hcompatible name)).2⟩
    · rw [placement_eraseDocs, List.forall_mem_map]
      exact fun p hp => (hadditions p.1).mpr (hexists p hp)
    · rw [addedAt_eraseDocs]
      exact (compatible_iff_eraseDocs.mp (hcompatible name)).1
  · rintro ⟨⟨hexists, hcompatible⟩, hdocs⟩
    rw [placement_eraseDocs, List.forall_mem_map] at hexists
    refine ⟨fun p hp => (hadditions p.1).mp (hexists p hp), fun name => ?_⟩
    have herased := hcompatible name
    rw [addedAt_eraseDocs] at herased
    exact compatible_iff_eraseDocs.mpr ⟨herased, hdocs name⟩

theorem documentsOf_eraseDocs (options : Options) (module : Module) :
    (mapperFor options module.eraseDocs).documentsOf (newDocument options module.eraseDocs)
        (placement options module.eraseDocs) =
      ((mapperFor options module).documentsOf (newDocument options module)
        (placement options module)).map Document.eraseDocs := by
  refine TextMap.ext_get? fun name => ?_
  rw [TextMap.get?_map, Mapper.documentsOf, Mapper.documentsOf, TextMap.get?_tabulate,
    TextMap.get?_tabulate, addedAt_eraseDocs, ← eraseDocs_assemble, placement_eraseDocs,
    List.map_map]
  show (if name ∈ (placement options module).map Prod.snd then _ else _) = _
  split <;> rfl

/-- Erasing documentation from a package erases it from its documents. -/
theorem translation_of_eraseDocs {docs : Documents} (h : translation options module = .ok docs) :
    translation options module.eraseDocs = .ok (docs.map Document.eraseDocs) := by
  obtain ⟨haccepts, rfl⟩ := translation_eq_ok_iff.mp h
  exact translation_eq_ok_iff.mpr
    ⟨(accepts_iff_eraseDocs.mp haccepts).1, (documentsOf_eraseDocs options module).symm⟩

/-- A package is translated exactly when it is without documentation and the documentation of its
fields agrees. -/
theorem exists_translation_iff (options : Options) (module : Module) :
    (∃ docs, translation options module = .ok docs) ↔
      (∃ docs, translation options module.eraseDocs = .ok docs) ∧
        FieldDocsAgree options module := by
  simp only [translation_eq_ok_iff, exists_and_left, exists_eq, and_true]
  exact accepts_iff_eraseDocs

/-- **Documentation counts only where messages are repeated.**  Let two packages differ in nothing
but their documentation.  What they are translated to is the same without documentation.  And they
are both translated or both refused unless they are fine without documentation and the field
documentation of repeated messages agrees in one of them only. -/
theorem translation_eraseDocs (options : Options) (hsame : module.eraseDocs = module'.eraseDocs) :
    (∀ docs docs', translation options module = .ok docs → translation options module' = .ok docs' →
      docs.map Document.eraseDocs = docs'.map Document.eraseDocs) ∧
    (((∃ docs, translation options module = .ok docs) ↔
        ∃ docs', translation options module' = .ok docs') ↔
      ((∃ docs, translation options module.eraseDocs = .ok docs) →
        (FieldDocsAgree options module ↔ FieldDocsAgree options module'))) := by
  refine ⟨fun docs docs' h h' => ?_, ?_⟩
  · have herased := translation_of_eraseDocs h
    rw [hsame, translation_of_eraseDocs h'] at herased
    exact (Except.ok.inj herased).symm
  · rw [exists_translation_iff options module, exists_translation_iff options module', ← hsame]
    exact and_congr_right_iff

end Packages

/-! ## Examples -/

/-- A package with a record of the same name and content as the list that its contract needs, and
with comments on the record of the elements and on the field of the list. -/
def catalog (docs fieldDocs : String) : Module where
  name := "shop"
  declarations := [
    ⟨"Widget", docs, "shop.go", ⟨3, 1⟩,
      .record [⟨some "Name", .ofName "string", Tag.empty, "", ⟨4, 2⟩⟩]⟩,
    ⟨"WidgetList", "", "shop.go", ⟨7, 1⟩,
      .record [⟨some "Widgets", .slice (.ofName "Widget"), Tag.empty, fieldDocs, ⟨8, 2⟩⟩]⟩,
    ⟨"Catalog", "", "shop.go", ⟨11, 1⟩,
      .contract [.method "All" [] [⟨none, .slice (.ofName "Widget")⟩] "" ⟨12, 2⟩]⟩]

/-- The document of the package, with the comment on the record of the elements. -/
def catalogDocument (docs : String) : Document :=
  { newDocument .standard (catalog docs "") "shop.proto" with
    imports := TextSet.add .empty extensionsFile
    messages := [
      ⟨"Widget", docs, [⟨"name", "", 1, .scalar "string", ⟨none, false, none⟩⟩]⟩,
      ⟨"WidgetList", "", [⟨"widgets", "", 1,
        { FieldType.message "Widget" with repeated := true, origin? := some "shop.proto" },
        ⟨none, false, none⟩⟩]⟩,
      ⟨"CatalogAllOp", "", []⟩]
    services := [⟨"Catalog", "", [⟨"All", "", "CatalogAllOp", "WidgetList"⟩]⟩] }

/-- A comment on a record is all that it adds to the document. -/
theorem translation_catalog_docs :
    (catalog "" "").eraseDocs = (catalog "Something to sell." "").eraseDocs ∧
      (TextMap.ofList [("shop.proto", catalogDocument "")]).map Document.eraseDocs =
        (TextMap.ofList [("shop.proto", catalogDocument "Something to sell.")]).map
          Document.eraseDocs := by
  have hsame : (catalog "" "").eraseDocs = (catalog "Something to sell." "").eraseDocs := rfl
  refine ⟨hsame, (translation_eraseDocs .standard hsame).1 _ _ ?_ ?_⟩
  · decide +kernel
  · decide +kernel

/-- **A comment on a field can make a translation fail.**  The record and the list that the
contract needs are the same message, until the field of the record is given a comment. -/
theorem conflict_catalog_fieldDocs :
    (catalog "" "").eraseDocs = (catalog "" "Widgets on sale.").eraseDocs ∧
      translation .standard (catalog "" "") =
        .ok (.ofList [("shop.proto", catalogDocument "")]) ∧
      translation .standard (catalog "" "Widgets on sale.") =
        .error ⟨"WidgetList", .conflictingMessage "WidgetList" "shop.proto"⟩ :=
  ⟨rfl, by decide +kernel, by decide +kernel⟩

end GoSchema.Mapping
