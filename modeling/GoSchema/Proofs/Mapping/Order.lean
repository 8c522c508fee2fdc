import GoSchema.Proofs.Mapping.Content

/-!
# The order of declarations

The declarations of a package come in the order of its files, which means nothing.  This file
proves that it does not matter either: with the same declarations in another order, a translation
succeeds or fails as before, and what it makes is the same up to the order of messages and
services (`translation_perm`).

## Strategy

Where names are distinct, two mappers that know the same declarations agree, so a declaration adds
the same whatever the order.  Each document then takes a permutation of its additions.  Whether
there is room for them is a statement about pairs of additions, `Compatible`, and does not depend
on their order; neither does a set of imports.

The first message of a name does depend on the order, but only in its documentation: compatible
messages of one name have the same fields.
-/

namespace GoSchema.Schema

/-- The name of a message and its fields. -/
def Message.content (msg : Message) : String × List Field := (msg.name, msg.fields)

/-- Two documents are the same up to the documentation of messages and the order in which messages
and services are declared. -/
structure Document.SameContent (doc doc' : Document) : Prop where
  fileName_eq : doc.fileName = doc'.fileName
  package_eq : doc.package = doc'.package
  imports_eq : doc.imports = doc'.imports
  options_eq : doc.options = doc'.options
  messages_perm : (doc.messages.map Message.content).Perm (doc'.messages.map Message.content)
  services_perm : doc.services.Perm doc'.services

end GoSchema.Schema

namespace GoSchema.Mapping

open Schema Go

/-! ## Additions in another order -/

section Additions

variable {additions additions' : List Addition}

/-- Whether there is room for additions does not depend on their order. -/
theorem compatible_of_perm (h : additions.Perm additions') (hcompatible : Compatible additions) :
    Compatible additions' := by
  have hmessages : (messagesOf additions).Perm (messagesOf additions') := h.filterMap _
  have hservices : (servicesOf additions).Perm (servicesOf additions') := h.filterMap _
  refine ⟨fun first hfirst second hsecond => ?_, ?_⟩
  · exact hcompatible.fieldsAgree first (hmessages.mem_iff.mpr hfirst) second
      (hmessages.mem_iff.mpr hsecond)
  · exact (hservices.map Service.name).nodup_iff.mp hcompatible.nodup_services

/-- Under compatible messages, the first ones have the names and fields of all. -/
private theorem mem_content_firsts_iff {messages : List Message} (h : FieldsAgree messages)
    (content : String × List Schema.Field) :
    content ∈ (firsts messages).map Message.content ↔ content ∈ messages.map Message.content := by
  simp only [List.mem_map]
  exact exists_firsts_iff h fun name fields => (name, fields) = content

private theorem nodup_content_firsts (messages : List Message) :
    ((firsts messages).map Message.content).Nodup := by
  refine List.Nodup.of_map Prod.fst ?_
  rw [List.map_map]
  exact nodup_firsts messages

/-- A document with compatible additions is the same whatever their order. -/
theorem sameContent_assemble (new : Document) (h : additions.Perm additions')
    (hcompatible : Compatible additions) :
    (assemble new additions).SameContent (assemble new additions') where
  fileName_eq := rfl
  package_eq := rfl
  options_eq := rfl
  imports_eq := by
    refine TextSet.ext_mem fun path => ?_
    show path ∈ withImports _ _ _ ↔ path ∈ withImports _ _ _
    rw [mem_withImports_iff, mem_withImports_iff, (h.flatMap_right Addition.imports).mem_iff]
  messages_perm := by
    have hperm : (messagesOf additions).Perm (messagesOf additions') := h.filterMap _
    refine (List.perm_ext_iff_of_nodup (nodup_content_firsts _) (nodup_content_firsts _)).mpr
      fun content => ?_
    rw [mem_content_firsts_iff hcompatible.fieldsAgree,
      mem_content_firsts_iff (compatible_of_perm h hcompatible).fieldsAgree,
      (hperm.map Message.content).mem_iff]
  services_perm := h.filterMap _

end Additions

/-! ## Declarations in another order -/

section Declarations

variable {options : Options} {module : Module} {declarations : List Declaration}

theorem placement_perm (options : Options) (hperm : module.declarations.Perm declarations) :
    (placement options module).Perm (placement options { module with declarations }) :=
  (hperm.filter _).map _

/-- Mappers agree that know the same declarations in another order. -/
theorem mapperFor_agree (hnames : module.NamesDistinct)
    (hperm : module.declarations.Perm declarations) :
    (mapperFor options module).Agree (mapperFor options { module with declarations }) where
  name_eq := rfl
  overrides_eq := rfl
  shape_eq name := by
    have hnames' : (module.declarations.reverse.map Declaration.name).Nodup := by
      rw [List.map_reverse]
      exact List.nodup_reverse.mpr hnames
    have hlookup := find?_name_perm hnames'
      ((List.reverse_perm _).trans (hperm.trans (List.reverse_perm _).symm)) name
    exact congrArg (Option.map fun d : Declaration => d.kind.shape) hlookup
  origins_eq := by
    have hplacement := placement_perm options hperm
    have hplaced := nodup_names_placement options hnames
    -- with distinct names, an origin is a matter of what is placed and not of its order
    refine TextMap.ext_get? fun name => Option.ext fun document => ?_
    show (originsOf _).get? name = _ ↔ (originsOf _).get? name = _
    rw [get?_originsOf_eq_some_iff hplaced,
      get?_originsOf_eq_some_iff ((hplacement.map _).nodup_iff.mp hplaced)]
    simp only [RecordPlaced, hplacement.mem_iff]

/-- What is placed in a document adds the same in another order. -/
theorem addedAt_perm (hnames : module.NamesDistinct)
    (hperm : module.declarations.Perm declarations) (name : String) :
    ((mapperFor options module).addedAt (placement options module) name).Perm
      ((mapperFor options { module with declarations }).addedAt
        (placement options { module with declarations }) name) := by
  have hadded : (mapperFor options module).added =
      (mapperFor options { module with declarations }).added := by
    funext d
    rw [Mapper.added, Mapper.added,
      Mapper.additions_congr (mapperFor_agree hnames hperm).resolve_eq]
  unfold Mapper.addedAt
  rw [hadded]
  exact ((placement_perm options hperm).filter _).flatMap_right _

theorem accepts_of_perm (hnames : module.NamesDistinct)
    (hperm : module.declarations.Perm declarations)
    (h : (mapperFor options module).Accepts (placement options module)) :
    (mapperFor options { module with declarations }).Accepts
      (placement options { module with declarations }) := by
  refine ⟨fun p hp => ?_, fun name => ?_⟩
  · rw [← Mapper.additions_congr (mapperFor_agree hnames hperm).resolve_eq]
    exact h.exists_additions p ((placement_perm options hperm).mem_iff.mpr hp)
  · exact compatible_of_perm (addedAt_perm hnames hperm name) (h.compatible name)

/-- A translation still succeeds when the declarations are put into another order. -/
theorem translation_ok_of_perm (options : Options) (hnames : module.NamesDistinct)
    (hperm : module.declarations.Perm declarations)
    (h : ∃ docs, translation options module = .ok docs) :
    ∃ docs, translation options { module with declarations } = .ok docs := by
  obtain ⟨docs, h⟩ := h
  exact ⟨_, translation_eq_ok_iff.mpr
    ⟨accepts_of_perm hnames hperm (translation_eq_ok_iff.mp h).1, rfl⟩⟩

/-- **The order of declarations does not matter.**  With the declarations in another order, a
translation succeeds or fails as before; and if it succeeds, it makes documents of the same names
with the same content. -/
theorem translation_perm (options : Options) (hnames : module.NamesDistinct)
    (hperm : module.declarations.Perm declarations) :
    ((∃ docs, translation options module = .ok docs) ↔
      ∃ docs', translation options { module with declarations } = .ok docs') ∧
    ∀ docs docs', translation options module = .ok docs →
      translation options { module with declarations } = .ok docs' →
      docs.keys = docs'.keys ∧ ∀ name doc doc', docs.get? name = some doc →
        docs'.get? name = some doc' → doc.SameContent doc' := by
  refine ⟨⟨translation_ok_of_perm options hnames hperm, fun h => ?_⟩,
    fun docs docs' h h' => ⟨?_, ?_⟩⟩
  · have hnames' : ({ module with declarations } : Module).NamesDistinct :=
      (hperm.map Declaration.name).nodup_iff.mp hnames
    exact @translation_ok_of_perm { module with declarations } _ options hnames' hperm.symm h
  · refine TextMap.keys_eq_of_isSome fun name => ?_
    rw [Bool.eq_iff_iff, ← TextMap.mem_keys_iff, ← TextMap.mem_keys_iff,
      mem_keys_of_translation_eq_ok h, mem_keys_of_translation_eq_ok h']
    have hselect : (select options.filter module.declarations).Perm
        (select options.filter declarations) := hperm.filter _
    simp only [hselect.mem_iff]
  · intro name doc doc' hdoc hdoc'
    rw [get?_of_translation_eq_ok h hdoc, get?_of_translation_eq_ok h' hdoc']
    exact sameContent_assemble _ (addedAt_perm hnames hperm name)
      ((translation_eq_ok_iff.mp h).1.compatible name)

end Declarations

/-- The shop is translated as well when its contract comes first. -/
theorem translation_shop_reverse :
    shop.NamesDistinct ∧ shop.declarations.Perm shop.declarations.reverse ∧
      ∃ docs', translation .standard { shop with declarations := shop.declarations.reverse } =
        .ok docs' ∧ docs'.keys = ["shop.proto"] := by
  have hnames : shop.NamesDistinct := by decide
  have hperm := (List.reverse_perm shop.declarations).symm
  obtain ⟨hsucceeds, hsame⟩ := translation_perm .standard hnames hperm
  obtain ⟨docs', h'⟩ := hsucceeds.mp ⟨_, translation_shop⟩
  exact ⟨hnames, hperm, docs', h', (hsame _ docs' translation_shop h').1.symm⟩

end GoSchema.Mapping
