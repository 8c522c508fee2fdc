import GoSchema.Proofs.Mapping.Placement
import GoSchema.Proofs.Mapping.Translation

/-!
# What a document holds

The documents of a package lose nothing that was selected and invent nothing.  For one document
this is `Represents`: each record placed in it is one of its messages, its services are those of
the contracts placed in it, and any other message is there because one of its own methods takes or
returns it.

A message can be added under one name by a record, by the parameters of a method and by a list of
results, and only the first of them is kept.  `Compatible` says that this does not matter:
whichever was first, its fields are those of the record.
-/

namespace GoSchema.Mapping

open Schema Go

/-! ## The statement -/

/-- The name of a service and those of its methods. -/
def serviceOutline (svc : Service) : String × List String :=
  (svc.name, svc.methods.map Method.name)

/-- The contracts placed in a document, each with its members. -/
def contractsAt (placed : Placement) (name : String) : List (String × List Member) :=
  placed.filterMap fun p =>
    match p.1.kind with
    | .contract members => if p.2 = name then some (p.1.name, members) else none
    | _ => none

/-- A document holds what the declarations placed in it become, and nothing else. -/
structure Represents (m : Mapper) (placed : Placement) (name : String) (doc : Document) : Prop where
  /-- A record is exactly one message, with the fields that are made for it. -/
  record_once : ∀ d fields, (d, name) ∈ placed → d.kind = .record fields →
    ∃ message held, (m.message d.name d.docs fields).value = .ok message ∧
      doc.messages.filter (fun h => h.name == d.name) = [held] ∧ held.fields = message.fields
  /-- The services are the contracts in order, and their methods those of the contracts in order. -/
  services_eq : doc.services.map serviceOutline =
    (contractsAt placed name).map fun c => (Naming.serviceStem c.1, methodNames c.2)
  /-- Any other message is taken or returned by a method. -/
  message_used : ∀ msg ∈ doc.messages, RecordPlaced placed name msg.name ∨
    ∃ svc ∈ doc.services, ∃ method ∈ svc.methods,
      msg.name = method.argument ∨ msg.name = method.returns

/-! ## One message of a name -/

/-- A message among compatible additions is held once, under its name and with its fields. -/
theorem exists_held_of_mem_messagesOf {additions : List Addition} {message : Message}
    (hcompatible : Compatible additions) (hmem : message ∈ messagesOf additions) :
    ∃ held, (firsts (messagesOf additions)).filter (fun h => h.name == message.name) = [held] ∧
      held.fields = message.fields := by
  obtain ⟨held, hheld, hname⟩ := exists_mem_firsts hmem
  refine ⟨held, ?_, hcompatible.fieldsAgree held (mem_of_mem_firsts hheld) message hmem hname⟩
  rw [← hname]
  exact filter_name_eq_singleton (nodup_firsts _) hheld

/-! ## What is added to one document -/

section Added

variable {m : Mapper} {placed : Placement} {name : String}

theorem exists_message_of_record {d : Declaration} {fields : List Go.Field}
    (haccepts : m.Accepts placed) (hplaced : (d, name) ∈ placed) (hkind : d.kind = .record fields) :
    ∃ message, (m.message d.name d.docs fields).value = .ok message ∧ message.name = d.name ∧
      message ∈ messagesOf (m.addedAt placed name) := by
  obtain ⟨additions, hadditions⟩ := haccepts.exists_additions _ hplaced
  have hmap : (m.message d.name d.docs fields).value.map (fun msg => [Addition.message msg]) =
      .ok additions := by
    rw [← hadditions, Mapper.additions, hkind]
  obtain ⟨message, hmessage, rfl⟩ := ok_of_map_iff.mp hmap
  refine ⟨message, hmessage, ?_, ?_⟩
  · obtain ⟨fs, -, rfl⟩ := Mapper.value_message_eq_ok_iff.mp hmessage
    rfl
  · rw [mem_messagesOf_iff, Mapper.mem_addedAt_iff]
    exact ⟨d, hplaced, Mapper.added_of_ok hadditions ▸ List.mem_singleton_self _⟩

/-- A declaration adds a service exactly when it is a contract. -/
private theorem servicesOf_added {d : Declaration} {additions : List Addition}
    (h : m.additions d = .ok additions) :
    (servicesOf additions).map serviceOutline =
      (contractsAt [(d, name)] name).map fun c => (Naming.serviceStem c.1, methodNames c.2) := by
  rcases Mapper.additions_eq_ok_cases h with
    ⟨fields, message, hkind, -, rfl⟩ | ⟨members, rpcs, hkind, hrpcs, rfl⟩ | ⟨type, hkind, rfl⟩
  · simp [contractsAt, hkind, servicesOf]
  · rw [servicesOf_contractAdditions]
    have hmethods : (rpcs.map Rpc.method).map Method.name = methodNames members := by
      rw [List.map_map]
      exact Mapper.map_name_rpcs hrpcs
    simp [contractsAt, hkind, serviceOutline, hmethods]
  · simp [contractsAt, hkind, servicesOf]

theorem servicesOf_addedAt (haccepts : m.Accepts placed) :
    (servicesOf (m.addedAt placed name)).map serviceOutline =
      (contractsAt placed name).map fun c => (Naming.serviceStem c.1, methodNames c.2) := by
  induction placed using List.reverseRecOn with
  | nil => rfl
  | append_singleton placed p ih =>
      obtain ⟨hbefore, additions, hadditions, -⟩ := Mapper.accepts_append_singleton_iff.mp haccepts
      -- only a declaration that is placed in this document adds to its services
      obtain ⟨d, document⟩ := p
      have hlast : contractsAt (placed ++ [(d, document)]) name =
          contractsAt placed name ++ contractsAt [(d, document)] name := List.filterMap_append
      rw [Mapper.addedAt_append_singleton, servicesOf_append, List.map_append, ih hbefore, hlast,
        List.map_append]
      congr 1
      by_cases hname : document = name
      · subst hname
        rw [if_pos rfl, Mapper.added_of_ok hadditions]
        exact servicesOf_added hadditions
      · rw [if_neg hname]
        cases hkind : d.kind <;> simp [contractsAt, servicesOf, hkind, hname]

/-- A message is added for a record or for a method. -/
theorem recordPlaced_or_used_of_mem_messagesOf {msg : Message} (haccepts : m.Accepts placed)
    (hmem : msg ∈ messagesOf (m.addedAt placed name)) :
    RecordPlaced placed name msg.name ∨ ∃ svc ∈ servicesOf (m.addedAt placed name),
      ∃ method ∈ svc.methods, msg.name = method.argument ∨ msg.name = method.returns := by
  obtain ⟨d, additions, hplaced, hadditions, hadded⟩ :=
    haccepts.mem_addedAt_iff.mp (mem_messagesOf_iff.mp hmem)
  rcases Mapper.additions_eq_ok_cases hadditions with
    ⟨fields, message, hkind, hmessage, rfl⟩ | ⟨members, rpcs, -, -, rfl⟩ | ⟨type, -, rfl⟩
  · -- the message is that of the record itself
    cases List.mem_singleton.mp hadded
    obtain ⟨fs, -, rfl⟩ := Mapper.value_message_eq_ok_iff.mp hmessage
    exact Or.inl ⟨d, fields, hplaced, hkind, rfl⟩
  · -- the message is one of a method, and the service comes with it
    have hservice : (⟨Naming.serviceStem d.name, d.docs, rpcs.map Rpc.method⟩ : Service) ∈
        servicesOf (m.addedAt placed name) := by
      rw [mem_servicesOf_iff, haccepts.mem_addedAt_iff]
      exact ⟨d, _, hplaced, hadditions, mem_contractAdditions_iff.mpr (.inr rfl)⟩
    rcases mem_contractAdditions_iff.mp hadded with ⟨rpc, hrpc, harg | hret⟩ | hservice
    · exact Or.inr ⟨_, hservice, rpc.method, List.mem_map_of_mem hrpc,
        Or.inl (Reduction.name_of_addition harg.symm).symm⟩
    · exact Or.inr ⟨_, hservice, rpc.method, List.mem_map_of_mem hrpc,
        Or.inr (Reduction.name_of_addition hret.symm).symm⟩
    · cases hservice
  · cases hadded

/-- A document with what is placed in it represents that. -/
theorem represents_assemble (haccepts : m.Accepts placed) (new : Document) :
    Represents m placed name (assemble new (m.addedAt placed name)) where
  record_once d fields hplaced hkind := by
    obtain ⟨message, hmessage, hname, hmem⟩ := exists_message_of_record haccepts hplaced hkind
    obtain ⟨held, hfilter, hfields⟩ :=
      exists_held_of_mem_messagesOf (haccepts.compatible name) hmem
    exact ⟨message, held, hmessage, hname ▸ hfilter, hfields⟩
  services_eq := servicesOf_addedAt haccepts
  message_used _ hmsg := recordPlaced_or_used_of_mem_messagesOf haccepts (mem_of_mem_firsts hmsg)

end Added

/-! ## All documents -/

/-- A document of a translation, as it is made. -/
theorem get?_of_translation_eq_ok {options : Options} {module : Module} {docs : Documents}
    {name : String} {doc : Document} (h : translation options module = .ok docs)
    (hget : docs.get? name = some doc) :
    doc = assemble (newDocument options module name)
      ((mapperFor options module).addedAt (placement options module) name) := by
  obtain ⟨-, rfl⟩ := translation_eq_ok_iff.mp h
  rw [Mapper.documentsOf, TextMap.get?_tabulate] at hget
  split at hget
  · exact (Option.some.inj hget).symm
  · cases hget

theorem mem_keys_of_translation_eq_ok {options : Options} {module : Module} {docs : Documents}
    (h : translation options module = .ok docs) (name : String) :
    name ∈ docs.keys ↔ ∃ d ∈ select options.filter module.declarations,
      documentName options module.name d = name := by
  obtain ⟨-, rfl⟩ := translation_eq_ok_iff.mp h
  rw [TextMap.mem_keys_iff, Mapper.documentsOf, TextMap.get?_tabulate, placement, List.map_map]
  split
  case isTrue hmem => exact (iff_true_left rfl).mpr (List.mem_map.mp hmem)
  case isFalse hmem => exact iff_of_false Bool.false_ne_true fun h => hmem (List.mem_map.mpr h)

/-- A document of a translation represents what is placed in it. -/
theorem represents_of_get? {options : Options} {module : Module} {docs : Documents} {name : String}
    {doc : Document} (h : translation options module = .ok docs)
    (hget : docs.get? name = some doc) :
    Represents (mapperFor options module) (placement options module) name doc := by
  rw [get?_of_translation_eq_ok h hget]
  exact represents_assemble (translation_eq_ok_iff.mp h).1 _

/-- **Nothing is lost and nothing is invented.**  The documents of a translation are those that the
selected declarations are given, and each of them holds what is placed in it and what its own
methods need. -/
theorem represents_of_translation_eq_ok {options : Options} {module : Module} {docs : Documents}
    (h : translation options module = .ok docs) :
    (∀ name, name ∈ docs.keys ↔ ∃ d ∈ select options.filter module.declarations,
      documentName options module.name d = name) ∧
    ∀ name doc, docs.get? name = some doc →
      Represents (mapperFor options module) (placement options module) name doc :=
  ⟨mem_keys_of_translation_eq_ok h, fun _ _ => represents_of_get? h⟩

/-! ## All documents together -/

/-- The messages of all documents. -/
def Documents.messages (docs : Documents) : List Message := docs.values.flatMap Document.messages

/-- The services of all documents. -/
def Documents.services (docs : Documents) : List Service := docs.values.flatMap Document.services

section Together

variable {options : Options} {module : Module} {docs : Documents}

/-- What is added to some document is what some selected declaration adds. -/
private theorem exists_addedAt_iff (h : translation options module = .ok docs)
    (P : Addition → Prop) :
    (∃ name doc, docs.get? name = some doc ∧
      ∃ a ∈ (mapperFor options module).addedAt (placement options module) name, P a) ↔
    ∃ d ∈ select options.filter module.declarations,
      ∃ a ∈ (mapperFor options module).added d, P a := by
  simp only [Mapper.mem_addedAt_iff]
  constructor
  · rintro ⟨name, doc, -, a, ⟨d, hplaced, ha⟩, hholds⟩
    obtain ⟨d', hselected, heq⟩ := List.mem_map.mp hplaced
    cases heq
    exact ⟨d, hselected, a, ha, hholds⟩
  · rintro ⟨d, hselected, a, ha, hholds⟩
    have hplaced : (d, documentName options module.name d) ∈ placement options module :=
      List.mem_map_of_mem hselected
    have hkey := (mem_keys_of_translation_eq_ok h _).mpr ⟨d, hselected, rfl⟩
    obtain ⟨doc, hget⟩ := Option.isSome_iff_exists.mp ((TextMap.mem_keys_iff ..).mp hkey)
    exact ⟨_, doc, hget, a, ⟨d, hplaced, ha⟩, hholds⟩

/-- The messages of all documents are those that the selected declarations add, up to their
documentation. -/
theorem exists_message_iff (h : translation options module = .ok docs)
    (P : String → List Schema.Field → Prop) :
    (∃ msg ∈ docs.messages, P msg.name msg.fields) ↔
      ∃ d ∈ select options.filter module.declarations,
        ∃ msg ∈ messagesOf ((mapperFor options module).added d), P msg.name msg.fields := by
  have hadditions (additions : List Addition) :
      (∃ msg ∈ messagesOf additions, P msg.name msg.fields) ↔
        ∃ a ∈ additions, ∃ msg, a = .message msg ∧ P msg.name msg.fields := by
    simp only [mem_messagesOf_iff]
    constructor
    · rintro ⟨msg, hmsg, hholds⟩
      exact ⟨_, hmsg, msg, rfl, hholds⟩
    · rintro ⟨_, hmsg, msg, rfl, hholds⟩
      exact ⟨msg, hmsg, hholds⟩
  have hheld (name : String) (doc : Document) (hget : docs.get? name = some doc) :
      (∃ msg ∈ doc.messages, P msg.name msg.fields) ↔
        ∃ a ∈ (mapperFor options module).addedAt (placement options module) name,
          ∃ msg, a = .message msg ∧ P msg.name msg.fields := by
    rw [get?_of_translation_eq_ok h hget, ← hadditions]
    exact exists_firsts_iff ((translation_eq_ok_iff.mp h).1.compatible name).fieldsAgree P
  simp only [hadditions, ← exists_addedAt_iff h]
  constructor
  · rintro ⟨msg, hmsg, hholds⟩
    obtain ⟨doc, hdoc, hmsg⟩ := List.mem_flatMap.mp hmsg
    obtain ⟨name, hget⟩ := (TextMap.mem_values_iff ..).mp hdoc
    exact ⟨name, doc, hget, (hheld name doc hget).mp ⟨msg, hmsg, hholds⟩⟩
  · rintro ⟨name, doc, hget, hadded⟩
    obtain ⟨msg, hmsg, hholds⟩ := (hheld name doc hget).mpr hadded
    exact ⟨msg, List.mem_flatMap.mpr ⟨doc, (TextMap.mem_values_iff ..).mpr ⟨name, hget⟩, hmsg⟩,
      hholds⟩

/-- The services of all documents are those that the selected declarations add. -/
theorem mem_services_iff (h : translation options module = .ok docs) (svc : Service) :
    svc ∈ docs.services ↔ ∃ d ∈ select options.filter module.declarations,
      svc ∈ servicesOf ((mapperFor options module).added d) := by
  have hheld (name : String) (doc : Document) (hget : docs.get? name = some doc) :
      svc ∈ doc.services ↔
        ∃ a ∈ (mapperFor options module).addedAt (placement options module) name,
          a = .service svc := by
    rw [get?_of_translation_eq_ok h hget, exists_eq_right]
    exact mem_servicesOf_iff
  have hadded := exists_addedAt_iff h fun a => a = .service svc
  simp only [exists_eq_right] at hadded
  simp only [mem_servicesOf_iff, ← hadded, Documents.services, List.mem_flatMap,
    TextMap.mem_values_iff]
  constructor
  · rintro ⟨doc, ⟨name, hget⟩, hsvc⟩
    exact ⟨name, doc, hget, by simpa using (hheld name doc hget).mp hsvc⟩
  · rintro ⟨name, doc, hget, hsvc⟩
    exact ⟨doc, ⟨name, hget⟩, (hheld name doc hget).mpr (by simpa using hsvc)⟩

end Together

/-! ## An example -/

/-- A package with a record, and a contract that lists records. -/
def shop : Module where
  name := "shop"
  declarations := [
    ⟨"Widget", "", "shop.go", ⟨3, 1⟩,
      .record [⟨some "Name", .ofName "string", Tag.empty, "", ⟨4, 2⟩⟩]⟩,
    ⟨"Store", "", "shop.go", ⟨7, 1⟩,
      .contract [.method "All" [] [⟨none, .slice (.ofName "Widget")⟩] "" ⟨8, 2⟩]⟩]

/-- The document of the package. Its last two messages are those of the method. -/
def shopDocument : Document :=
  { newDocument .standard shop "shop.proto" with
    imports := TextSet.add .empty extensionsFile
    messages := [
      ⟨"Widget", "", [⟨"name", "", 1, .scalar "string", ⟨none, false, none⟩⟩]⟩,
      ⟨"StoreAllOp", "", []⟩,
      ⟨"WidgetList", "", [⟨"widgets", "", 1,
        { FieldType.message "Widget" with repeated := true, origin? := some "shop.proto" },
        ⟨none, false, none⟩⟩]⟩]
    services := [⟨"Store", "", [⟨"All", "", "StoreAllOp", "WidgetList"⟩]⟩] }

theorem translation_shop :
    translation .standard shop = .ok (.ofList [("shop.proto", shopDocument)]) := by
  decide +kernel

theorem represents_shop :
    translation .standard shop = .ok (.ofList [("shop.proto", shopDocument)]) ∧
      Represents (mapperFor .standard shop) (placement .standard shop) "shop.proto" shopDocument :=
  ⟨translation_shop, (represents_of_translation_eq_ok translation_shop).2 _ _ rfl⟩

end GoSchema.Mapping
