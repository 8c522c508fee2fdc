import GoSchema.Proofs.Mapping.Content

/-!
# Where references lead

A document refers to messages by name, in the types of its fields and in what its methods take and
return.  A reference leads somewhere if the message is declared in the document itself or in a
document of the package that it imports.

Two decisions have to agree for this.  `isEligible` decides which records get a message, and
`Mapper.resolve` decides which names are references to messages.  They agree except for exported
records that get no message because of their names or their files: these are resolved like any
other record.  `closed_iff` says that nothing else can go wrong: references are closed exactly
when each one to such a record happens to meet a message that was made for a method.

The argument follows a reference back to the addition that brought it along.  Its type is the
resolution of a source type, so it names an exported record and carries the origin of that record;
the origin is imported along with it, and the document of the origin holds the message.
-/

namespace GoSchema.Schema

/-- The messages that a document refers to. -/
def Document.references (doc : Document) : List String :=
  (doc.messages.flatMap fun msg => (msg.fields.filter (·.type.isMessage)).map (·.type.name)) ++
    doc.services.flatMap fun svc => svc.methods.flatMap fun method =>
      [method.argument, method.returns]

/-- A document has a message of a name. -/
def Document.Declares (doc : Document) (name : String) : Prop :=
  ∃ msg ∈ doc.messages, msg.name = name

instance (doc : Document) (name : String) : Decidable (doc.Declares name) :=
  inferInstanceAs (Decidable (∃ msg ∈ doc.messages, msg.name = name))

end GoSchema.Schema

namespace GoSchema.Mapping

open Schema Go

/-! ## The statement -/

/-- The documents whose messages a document can refer to: itself and those it imports. -/
def inScope (docs : Documents) (doc : Document) : List Document :=
  doc :: doc.imports.keys.filterMap docs.get?

/-- Each reference of each document leads somewhere. -/
def Closed (docs : Documents) : Prop :=
  ∀ name doc, docs.get? name = some doc → ∀ ref ∈ doc.references,
    ∃ other ∈ inScope docs doc, other.Declares ref

/-- An exported record of a name gets no message, whatever the filter says. -/
def RefusedRecord (module : Module) (name : String) : Prop :=
  ∃ d ∈ module.declarations, d.name = name ∧ (∃ fields, d.kind = .record fields) ∧ d.isExported ∧
    ¬isEligible d

/-- A document has a message of a name because a method takes or returns it. -/
def MadeForMethod (doc : Document) (name : String) : Prop :=
  doc.Declares name ∧ ∃ svc ∈ doc.services, ∃ method ∈ svc.methods,
    name = method.argument ∨ name = method.returns

/-! ## Types and what they import -/

/-- The types that an addition brings into a document. -/
def Addition.types : Addition → List FieldType
  | .message msg => msg.fields.map (·.type)
  | .reuse type => [type]
  | .service _ => []

/-- The origin of a type is imported along with it. -/
theorem Addition.origin_mem_imports {a : Addition} {type : FieldType} {path : String}
    (htype : type ∈ a.types) (horigin : type.origin? = some path) : path ∈ a.imports := by
  cases a with
  | message msg =>
      obtain ⟨f, hf, rfl⟩ := List.mem_map.mp htype
      exact List.mem_append_left _ (List.mem_filterMap.mpr ⟨f, hf, horigin⟩)
  | reuse type' =>
      cases List.mem_singleton.mp htype
      rw [Addition.imports, horigin]
      exact List.mem_singleton_self path
  | service svc => cases htype

section Types

variable {m : Mapper} {d : Declaration} {additions : List Addition} {a : Addition}
  {type : FieldType}

private theorem exists_resolve_of_reduction {wrapperName : String} {members : List Param}
    {r : Reduction} (hr : (m.reduce wrapperName members).value = .ok r)
    (htype : type ∈ r.addition.types) : ∃ t, type = (m.resolve t).type := by
  rcases Mapper.value_reduce_eq_ok_cases hr with ⟨_, hreused, -, rfl⟩ | ⟨_, -, hmessage, rfl⟩
  · cases List.mem_singleton.mp htype
    exact (Mapper.exists_resolve_of_reused hreused).2
  · obtain ⟨f, hf, rfl⟩ := List.mem_map.mp htype
    exact Mapper.exists_resolve_of_mem_message hmessage hf

/-- Every type that a declaration brings along is the resolution of a source type. -/
theorem exists_resolve_of_mem_types (h : m.additions d = .ok additions) (ha : a ∈ additions)
    (htype : type ∈ a.types) : ∃ t, type = (m.resolve t).type := by
  rcases Mapper.additions_eq_ok_cases h with
    ⟨fields, message, -, hmessage, rfl⟩ | ⟨members, rpcs, -, hrpcs, rfl⟩ | ⟨_, -, rfl⟩
  · cases List.mem_singleton.mp ha
    obtain ⟨f, hf, rfl⟩ := List.mem_map.mp htype
    exact Mapper.exists_resolve_of_mem_message hmessage hf
  · rcases mem_contractAdditions_iff.mp ha with ⟨rpc, hrpc, hmember⟩ | rfl
    · obtain ⟨⟨_, _, hargument⟩, ⟨_, _, hreturns⟩⟩ := Mapper.exists_reduce_of_mem_rpcs hrpcs hrpc
      rcases hmember with rfl | rfl
      · exact exists_resolve_of_reduction hargument htype
      · exact exists_resolve_of_reduction hreturns htype
    · cases htype
  · cases ha

end Types

/-! ## Where the references of a document come from -/

section References

variable {m : Mapper} {placed : Placement} {name ref : String}

theorem declares_assemble_iff (new : Document) (additions : List Addition) :
    (assemble new additions).Declares ref ↔ ∃ msg ∈ messagesOf additions, msg.name = ref := by
  constructor
  · rintro ⟨msg, hmsg, hname⟩
    exact ⟨msg, mem_of_mem_firsts hmsg, hname⟩
  · rintro ⟨msg, hmsg, rfl⟩
    exact exists_mem_firsts hmsg

/-- The message that a method takes or returns is one of a type or one that is added. -/
private theorem reference_of_reduction {wrapperName : String} {members : List Param} {r : Reduction}
    {additions : List Addition} (hr : (m.reduce wrapperName members).value = .ok r)
    (hmem : r.addition ∈ additions) :
    (∃ a ∈ additions, ∃ type ∈ a.types, type.isMessage ∧ type.name = r.name) ∨
      ∃ msg ∈ messagesOf additions, msg.name = r.name := by
  rcases Mapper.value_reduce_eq_ok_cases hr with ⟨_, hreused, -, rfl⟩ | ⟨message, -, -, rfl⟩
  · exact Or.inl ⟨_, hmem, _, List.mem_singleton_self _,
      (Mapper.exists_resolve_of_reused hreused).1, rfl⟩
  · exact Or.inr ⟨message, mem_messagesOf_iff.mpr hmem, rfl⟩

/-- What a method of a service takes or returns was added together with the service. -/
private theorem reference_of_method (haccepts : m.Accepts placed) {svc : Service}
    (hsvc : svc ∈ servicesOf (m.addedAt placed name)) {method : Schema.Method}
    (hmethod : method ∈ svc.methods) (href : ref = method.argument ∨ ref = method.returns) :
    (∃ a ∈ m.addedAt placed name, ∃ type ∈ a.types, type.isMessage ∧ type.name = ref) ∨
      ∃ msg ∈ messagesOf (m.addedAt placed name), msg.name = ref := by
  obtain ⟨d, additions, hplaced, hadditions, hadded⟩ :=
    haccepts.mem_addedAt_iff.mp (mem_servicesOf_iff.mp hsvc)
  have hall : ∀ a ∈ additions, a ∈ m.addedAt placed name := fun a ha =>
    haccepts.mem_addedAt_iff.mpr ⟨d, additions, hplaced, hadditions, ha⟩
  rcases Mapper.additions_eq_ok_cases hadditions with
    ⟨fields, message, -, -, rfl⟩ | ⟨members, rpcs, -, hrpcs, rfl⟩ | ⟨_, -, rfl⟩
  · cases List.mem_singleton.mp hadded
  · rcases mem_contractAdditions_iff.mp hadded with ⟨rpc, -, hrpc⟩ | hservice
    · -- what a method needs is never a service
      rcases hrpc with hrpc | hrpc
      · cases hname : rpc.argument <;> rw [hname] at hrpc <;> cases hrpc
      · cases hname : rpc.returns <;> rw [hname] at hrpc <;> cases hrpc
    · cases hservice
      obtain ⟨rpc, hrpc, rfl⟩ := List.mem_map.mp hmethod
      obtain ⟨⟨_, _, hargument⟩, ⟨_, _, hreturns⟩⟩ := Mapper.exists_reduce_of_mem_rpcs hrpcs hrpc
      rcases href with rfl | rfl
      · exact reference_of_reduction hargument
          (hall _ (mem_contractAdditions_iff.mpr (.inl ⟨rpc, hrpc, .inl rfl⟩)))
      · exact reference_of_reduction hreturns
          (hall _ (mem_contractAdditions_iff.mpr (.inl ⟨rpc, hrpc, .inr rfl⟩)))
  · cases hadded

/-- A reference of a document is the type of an addition, or names a message that is added. -/
theorem references_assemble_cases (haccepts : m.Accepts placed) (new : Document)
    (href : ref ∈ (assemble new (m.addedAt placed name)).references) :
    (∃ a ∈ m.addedAt placed name, ∃ type ∈ a.types, type.isMessage ∧ type.name = ref) ∨
      ∃ msg ∈ messagesOf (m.addedAt placed name), msg.name = ref := by
  rcases List.mem_append.mp href with hfield | hmethod
  · obtain ⟨msg, hmsg, hfield⟩ := List.mem_flatMap.mp hfield
    obtain ⟨f, hf, rfl⟩ := List.mem_map.mp hfield
    obtain ⟨hf, hmessage⟩ := List.mem_filter.mp hf
    have hadded := mem_messagesOf_iff.mp (mem_of_mem_firsts hmsg)
    exact Or.inl ⟨_, hadded, f.type, List.mem_map_of_mem hf, hmessage, rfl⟩
  · obtain ⟨svc, hsvc, hmethod⟩ := List.mem_flatMap.mp hmethod
    obtain ⟨method, hmem, href⟩ := List.mem_flatMap.mp hmethod
    exact reference_of_method haccepts hsvc hmem (List.mem_pair.mp href)

end References

/-! ## Closed references -/

section Closed

variable {options : Options} {module : Module} {docs : Documents} {name ref : String}
  {doc : Document}

/-- A record that is placed is declared where it is placed. -/
theorem declares_of_recordPlaced (h : translation options module = .ok docs) {document : String}
    (hplaced : RecordPlaced (placement options module) document name) :
    ∃ other, docs.get? document = some other ∧ other.Declares name := by
  obtain ⟨d, fields, hmem, hkind, rfl⟩ := hplaced
  have hkey : document ∈ docs.keys := by
    obtain ⟨⟨hd, heligible, hoccurs⟩, hname⟩ := mem_placement_iff.mp hmem
    refine (mem_keys_of_translation_eq_ok h document).mpr ⟨d, ?_, hname⟩
    simp [select, hd, heligible, hoccurs]
  obtain ⟨other, hget⟩ := Option.isSome_iff_exists.mp ((TextMap.mem_keys_iff ..).mp hkey)
  obtain ⟨_, held, -, hfilter, -⟩ :=
    ((represents_of_get? h hget).record_once d fields hmem hkind)
  have hheld : held ∈ other.messages.filter fun msg => msg.name == d.name :=
    hfilter ▸ List.mem_singleton_self held
  obtain ⟨hheld, hname⟩ := List.mem_filter.mp hheld
  exact ⟨other, hget, held, hheld, beq_iff_eq.mp hname⟩

/-- What is imported is in scope. -/
theorem mem_inScope_of_import (h : translation options module = .ok docs)
    (hget : docs.get? name = some doc) {a : Addition} {path : String} {other : Document}
    (ha : a ∈ (mapperFor options module).addedAt (placement options module) name)
    (hpath : path ∈ a.imports) (hother : docs.get? path = some other) :
    other ∈ inScope docs doc := by
  by_cases hself : path = name
  · rw [hself, hget] at hother
    cases hother
    exact List.mem_cons_self
  · have himport : path ∈ doc.imports := by
      rw [get?_of_translation_eq_ok h hget]
      exact (mem_withImports_iff ..).mpr (.inr ⟨List.mem_flatMap.mpr ⟨a, ha, hpath⟩, hself⟩)
    refine List.mem_cons_of_mem _ (List.mem_filterMap.mpr ⟨path, ?_, hother⟩)
    exact (TextMap.mem_keys_iff ..).mpr ((TextSet.mem_iff ..).mp himport)

/-- A record that is referred to and not refused is placed in the document that the reference
gives. -/
theorem exists_recordPlaced_of_isReference (hnames : module.NamesDistinct)
    (hfilter : options.filter = Pattern.always) {type : FieldType}
    (hreference : (mapperFor options module).IsReference type)
    (haccepted : ¬RefusedRecord module type.name) :
    ∃ document, type.origin? = some document ∧
      RecordPlaced (placement options module) document type.name := by
  obtain ⟨⟨d, fields, hlookup, hkind⟩, hexported, horigin⟩ := hreference
  obtain ⟨hd, hname⟩ := (Module.lookup?_eq_some_iff hnames).mp hlookup
  have heligible : isEligible d := by
    by_contra hrefused
    exact haccepted
      ⟨d, hd, hname, ⟨fields, hkind⟩, by rwa [Declaration.isExported, hname], hrefused⟩
  have hoccurs : options.filter.occursIn d.name := by
    rw [hfilter]
    exact occursIn_always d.name
  have hplaced : RecordPlaced (placement options module) (documentName options module.name d)
      type.name :=
    ⟨d, fields, mem_placement_iff.mpr ⟨⟨hd, heligible, hoccurs⟩, rfl⟩, hkind, hname⟩
  exact ⟨_, horigin.trans
    ((get?_originsOf_eq_some_iff (nodup_names_placement options hnames)).mpr hplaced), hplaced⟩

/-- A type that refers to a message leads somewhere, unless its record is refused. -/
theorem exists_declares_of_type (hnames : module.NamesDistinct)
    (hoverrides : options.overrides = .empty) (hfilter : options.filter = Pattern.always)
    (h : translation options module = .ok docs) (hget : docs.get? name = some doc) {a : Addition}
    {type : FieldType}
    (ha : a ∈ (mapperFor options module).addedAt (placement options module) name)
    (htype : type ∈ a.types) (hmessage : type.isMessage)
    (haccepted : ¬RefusedRecord module type.name) :
    ∃ other ∈ inScope docs doc, other.Declares type.name := by
  obtain ⟨d, additions, -, hadditions, hadded⟩ :=
    (translation_eq_ok_iff.mp h).1.mem_addedAt_iff.mp ha
  obtain ⟨t, rfl⟩ := exists_resolve_of_mem_types hadditions hadded htype
  have hreference :=
    Mapper.isReference_of_isMessage (m := mapperFor options module) hoverrides hmessage
  obtain ⟨document, horigin, hrecord⟩ :=
    exists_recordPlaced_of_isReference hnames hfilter hreference haccepted
  obtain ⟨other, hother, hdeclares⟩ := declares_of_recordPlaced h hrecord
  have himports := Addition.origin_mem_imports htype horigin
  exact ⟨other, mem_inScope_of_import h hget ha himports hother, hdeclares⟩

/-- A message of the name of a refused record was made for a method. -/
theorem madeForMethod_of_refused (hnames : module.NamesDistinct)
    (h : translation options module = .ok docs) (hget : docs.get? name = some doc)
    (hrefused : RefusedRecord module ref) (hdeclares : doc.Declares ref) :
    MadeForMethod doc ref := by
  obtain ⟨msg, hmsg, rfl⟩ := hdeclares
  refine ⟨⟨msg, hmsg, rfl⟩, ?_⟩
  rcases (represents_of_get? h hget).message_used msg hmsg with ⟨d, _, hplaced, -, hname⟩ | hused
  · -- another record of the name would have been selected
    obtain ⟨refused, hmem, hrefusedName, -, -, hnot⟩ := hrefused
    obtain ⟨⟨hd, heligible, -⟩, -⟩ := mem_placement_iff.mp hplaced
    have hsame : d = refused :=
      List.inj_on_of_nodup_map hnames hd hmem (hname.trans hrefusedName.symm)
    exact absurd (hsame ▸ heligible) hnot
  · exact hused

/-- **References are closed but for refused records.**  In the documents of a package without
overrides and filter, each reference leads to a message in scope, unless it names an exported
record that gets no message; and such a reference leads somewhere only by meeting a message made
for a method. -/
theorem closed_iff (hnames : module.NamesDistinct) (hoverrides : options.overrides = .empty)
    (hfilter : options.filter = Pattern.always) (h : translation options module = .ok docs) :
    Closed docs ↔ ∀ name doc, docs.get? name = some doc → ∀ ref ∈ doc.references,
      RefusedRecord module ref → ∃ other ∈ inScope docs doc, MadeForMethod other ref := by
  constructor
  · intro hclosed name doc hget ref href hrefused
    obtain ⟨other, hscope, hdeclares⟩ := hclosed name doc hget ref href
    obtain ⟨otherName, hother⟩ : ∃ otherName, docs.get? otherName = some other := by
      rcases List.mem_cons.mp hscope with rfl | himported
      · exact ⟨name, hget⟩
      · obtain ⟨path, -, hpath⟩ := List.mem_filterMap.mp himported
        exact ⟨path, hpath⟩
    exact ⟨other, hscope, madeForMethod_of_refused hnames h hother hrefused hdeclares⟩
  · intro hmade name doc hget ref href
    -- for a refused record there is nothing but the assumption
    by_cases hrefused : RefusedRecord module ref
    · obtain ⟨other, hscope, hdeclares, -⟩ := hmade name doc hget ref href hrefused
      exact ⟨other, hscope, hdeclares⟩
    · rw [get?_of_translation_eq_ok h hget] at href
      rcases references_assemble_cases (translation_eq_ok_iff.mp h).1 _ href with
        ⟨a, ha, type, htype, hmessage, rfl⟩ | hadded
      · exact exists_declares_of_type hnames hoverrides hfilter h hget ha htype hmessage hrefused
      · refine ⟨doc, List.mem_cons_self, ?_⟩
        rw [get?_of_translation_eq_ok h hget]
        exact (declares_assemble_iff ..).mpr hadded

end Closed

/-! ## Examples -/

/-- The options without overrides. -/
def bareOptions : Options := { Options.standard with overrides := .empty }

/-- No record of the shop is refused, so its references are closed. -/
theorem closed_shop :
    translation bareOptions shop = .ok (.ofList [("shop.proto", shopDocument)]) ∧
      Closed (.ofList [("shop.proto", shopDocument)]) := by
  have htranslation :
      translation bareOptions shop = .ok (.ofList [("shop.proto", shopDocument)]) := by
    decide +kernel
  have heligible : ∀ d ∈ shop.declarations, isEligible d := by decide +kernel
  refine ⟨htranslation, (closed_iff (by decide) rfl rfl htranslation).mpr ?_⟩
  rintro _ _ _ _ _ ⟨d, hd, -, -, -, hrefused⟩
  exact absurd (heligible d hd) hrefused

/-- A package with a record that holds an error. -/
def shopWithError : Module where
  name := "shop"
  declarations := [
    ⟨"QueryError", "", "shop.go", ⟨3, 1⟩,
      .record [⟨some "Code", .ofName "string", Tag.empty, "", ⟨4, 2⟩⟩]⟩,
    ⟨"Reply", "", "shop.go", ⟨7, 1⟩,
      .record [⟨some "Failure", .ofName "QueryError", Tag.empty, "", ⟨8, 2⟩⟩]⟩]

/-- The document of the package. It refers to the error without declaring it. -/
def replyDocument : Document :=
  { newDocument bareOptions shopWithError "shop.proto" with
    imports := TextSet.add .empty extensionsFile
    messages := [⟨"Reply", "", [⟨"failure", "", 1, .message "QueryError", ⟨none, false, none⟩⟩]⟩] }

/-- **References to refused records are left open.**  An error is no message, but a field of its
type refers to one. -/
theorem not_closed_shopWithError :
    shopWithError.NamesDistinct ∧
      translation bareOptions shopWithError = .ok (.ofList [("shop.proto", replyDocument)]) ∧
      RefusedRecord shopWithError "QueryError" ∧ "QueryError" ∈ replyDocument.references ∧
      ¬Closed (.ofList [("shop.proto", replyDocument)]) := by
  refine ⟨by decide, by decide +kernel, ?_, by decide, fun hclosed => ?_⟩
  · exact ⟨_, List.mem_cons_self, rfl, ⟨_, rfl⟩, by decide +kernel, by decide +kernel⟩
  · obtain ⟨other, hscope, hdeclares⟩ :=
      hclosed "shop.proto" replyDocument rfl "QueryError" (by decide)
    -- the extension options are not a document of the package
    have hself : inScope (.ofList [("shop.proto", replyDocument)]) replyDocument =
        [replyDocument] := by decide +kernel
    rw [hself, List.mem_singleton] at hscope
    exact absurd (hscope ▸ hdeclares) (by decide)

end GoSchema.Mapping
