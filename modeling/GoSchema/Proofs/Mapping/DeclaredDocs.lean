import GoSchema.Proofs.Mapping.Consistency
import GoSchema.Proofs.Mapping.Content

/-!
# Documentation of declarations

The documentation of a contract is that of its service, because a document takes a service of each
name only once.  The documentation of a record is that of its message, unless the message is not
its own: the messages that are made for the methods of a contract have no documentation, and one of
them may have the name and the fields of a record.  A document keeps the first of them, so the
record's documentation is lost exactly if such a contract was placed in its document before it
(`MadeAt`, `declared_docs`).

Looking for the message of a record among all that was added to its document goes over three parts:
what the declarations before it added, its own message, and the rest, which does not count any
more.  Other records have other names, so only contracts can get in first (`made_of_mem_added`).
-/

namespace GoSchema.Mapping

open Schema Go

/-! ## Messages made for contracts -/

/-- The messages that a declaration needs for its methods. -/
def Mapper.made (m : Mapper) (d : Declaration) : List Message :=
  match d.kind with
  | .contract members => m.wrappers (Naming.serviceStem d.name) members
  | _ => []

/-- A contract that is placed in a document makes a message of a name. -/
def MadeAt (m : Mapper) (placed : Placement) (document name : String) : Prop :=
  ∃ p ∈ placed, p.2 = document ∧ ∃ msg ∈ m.made p.1, msg.name = name

instance (m : Mapper) (placed : Placement) (document name : String) :
    Decidable (MadeAt m placed document name) :=
  inferInstanceAs (Decidable (∃ p ∈ placed, p.2 = document ∧ ∃ msg ∈ m.made p.1, msg.name = name))

section Made

variable {m : Mapper} {d : Declaration} {additions : List Addition} {msg : Message}

/-- A message that is made has no documentation. -/
theorem docs_eq_of_mem_made (h : msg ∈ m.made d) : msg.docs = "" := by
  unfold Mapper.made at h
  split at h
  · rw [Mapper.wrappers, mem_messagesOf_iff] at h
    obtain ⟨list, -, hadds⟩ := List.mem_map.mp h
    unfold Mapper.reduced at hadds
    split at hadds
    · cases hadds
    · cases hadds
      rfl
  · cases h

theorem made_of_record {fields : List Go.Field} (hkind : d.kind = .record fields) :
    m.made d = [] := by
  rw [Mapper.made, hkind]

/-- A record adds its own message. -/
theorem exists_message_of_additions {fields : List Go.Field} (h : m.additions d = .ok additions)
    (hkind : d.kind = .record fields) :
    ∃ message, additions = [.message message] ∧ message.name = d.name ∧ message.docs = d.docs := by
  rw [Mapper.additions, hkind] at h
  obtain ⟨message, hmessage, rfl⟩ := ok_of_map_iff.mp h
  obtain ⟨fs, -, rfl⟩ := Mapper.value_message_eq_ok_iff.mp hmessage
  exact ⟨_, rfl, rfl, rfl⟩

/-- Any other declaration adds the messages that are made for it. -/
theorem messagesOf_eq_made (h : m.additions d = .ok additions)
    (hkind : ∀ fields, d.kind ≠ .record fields) : messagesOf additions = m.made d := by
  rcases Mapper.additions_eq_ok_cases h with
    ⟨fields, -, hrecord, -⟩ | ⟨members, rpcs, hcontract, hrpcs, rfl⟩ | ⟨type, hdefined, rfl⟩
  · exact absurd hrecord (hkind fields)
  · rw [messagesOf_contractAdditions, Mapper.flatMap_additions_rpcs hrpcs, Mapper.made, hcontract]
    rfl
  · rw [Mapper.made, hdefined]
    rfl

end Made

/-! ## The first message of a record's name -/

section Placed

variable {m : Mapper} {before after : Placement} {d : Declaration} {document : String}

theorem addedAt_append (m : Mapper) (first second : Placement) (name : String) :
    m.addedAt (first ++ second) name = m.addedAt first name ++ m.addedAt second name := by
  rw [Mapper.addedAt, List.filter_append, List.flatMap_append, Mapper.addedAt, Mapper.addedAt]

theorem addedAt_cons_self (m : Mapper) (d : Declaration) (rest : Placement) (name : String) :
    m.addedAt ((d, name) :: rest) name = m.added d ++ m.addedAt rest name := by
  rw [Mapper.addedAt, List.filter_cons_of_pos (by simp), List.flatMap_cons, Mapper.addedAt]

theorem accepts_of_append (h : m.Accepts (before ++ after)) : m.Accepts before := by
  refine ⟨fun p hp => h.exists_additions p (List.mem_append_left _ hp), fun name => ?_⟩
  refine (h.compatible name).sublist ?_
  rw [addedAt_append]
  exact List.sublist_append_left ..

/-- A message is among those that were added under a name that no record has exactly if it was made
for a contract. -/
theorem mem_messagesOf_iff_made (haccepts : m.Accepts before) {msg : Message}
    (hfresh : msg.name ∉ before.map fun p => p.1.name) :
    msg ∈ messagesOf (m.addedAt before document) ↔
      ∃ p ∈ before, p.2 = document ∧ msg ∈ m.made p.1 := by
  rw [mem_messagesOf_iff, haccepts.mem_addedAt_iff]
  constructor
  · rintro ⟨c, additions, hplaced, hadditions, hadded⟩
    by_cases hrecord : ∃ fields, c.kind = .record fields
    · obtain ⟨fields, hkind⟩ := hrecord
      obtain ⟨message, rfl, hname, -⟩ := exists_message_of_additions hadditions hkind
      cases List.mem_singleton.mp hadded
      exact absurd (List.mem_map.mpr ⟨_, hplaced, hname.symm⟩) hfresh
    · rw [not_exists] at hrecord
      refine ⟨_, hplaced, rfl, ?_⟩
      rw [← messagesOf_eq_made hadditions hrecord]
      exact mem_messagesOf_iff.mpr hadded
  · rintro ⟨⟨c, _⟩, hplaced, rfl, hmade⟩
    obtain ⟨additions, hadditions⟩ := haccepts.exists_additions _ hplaced
    refine ⟨c, additions, hplaced, hadditions, mem_messagesOf_iff.mp ?_⟩
    rw [messagesOf_eq_made hadditions fun fields hkind => ?_]
    · exact hmade
    · rw [made_of_record hkind] at hmade
      cases hmade

/-- Of all messages of its name, that of a record is the first one, unless one was made before. -/
theorem exists_find?_of_record {fields : List Go.Field}
    (haccepts : m.Accepts (before ++ (d, document) :: after))
    (hfresh : d.name ∉ before.map fun p => p.1.name) (hkind : d.kind = .record fields) :
    ∃ held, (messagesOf (m.addedAt (before ++ (d, document) :: after) document)).find?
        (fun msg => msg.name == d.name) = some held ∧
      held.docs = if MadeAt m before document d.name then "" else d.docs := by
  have hbefore := accepts_of_append haccepts
  obtain ⟨additions, hadditions⟩ := haccepts.exists_additions (d, document) (by simp)
  obtain ⟨message, rfl, hname, hdocs⟩ := exists_message_of_additions hadditions hkind
  have hmessages : messagesOf (m.addedAt (before ++ (d, document) :: after) document) =
      messagesOf (m.addedAt before document) ++
        message :: messagesOf (m.addedAt after document) := by
    rw [addedAt_append, addedAt_cons_self, Mapper.added_of_ok hadditions, messagesOf_append,
      messagesOf_append]
    rfl
  rw [hmessages, List.find?_append]
  cases hfirst : (messagesOf (m.addedAt before document)).find? fun msg => msg.name == d.name with
  | some held =>
      have hheld : held.name = d.name := by simpa using List.find?_some hfirst
      obtain ⟨p, hp, hdocument, hmade⟩ := (mem_messagesOf_iff_made hbefore (hheld ▸ hfresh)).mp
        (List.mem_of_find?_eq_some hfirst)
      refine ⟨held, rfl, ?_⟩
      rw [if_pos ⟨p, hp, hdocument, held, hmade, hheld⟩]
      exact docs_eq_of_mem_made hmade
  | none =>
      have hnone : ¬MadeAt m before document d.name := by
        rintro ⟨p, hp, hdocument, msg, hmade, hmsg⟩
        have hmem := (mem_messagesOf_iff_made hbefore (hmsg ▸ hfresh)).mpr
          ⟨p, hp, hdocument, hmade⟩
        exact List.find?_eq_none.mp hfirst msg hmem (beq_iff_eq.mpr hmsg)
      refine ⟨message, ?_, ?_⟩
      · rw [Option.none_or, List.find?_cons_of_pos (by simpa using hname)]
      · rw [if_neg hnone, hdocs]

end Placed

/-! ## Translations -/

section Translations

variable {options : Options} {module : Module} {docs : Documents} {d : Declaration}
  {document : String}

theorem get?_of_mem_placement (h : translation options module = .ok docs)
    (hplaced : (d, document) ∈ placement options module) :
    docs.get? document = some (assemble (newDocument options module document)
      ((mapperFor options module).addedAt (placement options module) document)) := by
  obtain ⟨-, rfl⟩ := translation_eq_ok_iff.mp h
  have hkey : document ∈ (placement options module).map Prod.snd :=
    List.mem_map.mpr ⟨_, hplaced, rfl⟩
  rw [Mapper.documentsOf, TextMap.get?_tabulate, if_pos hkey]

/-- The service of a contract has its documentation. -/
theorem exists_service_of_contract (h : translation options module = .ok docs)
    (hplaced : (d, document) ∈ placement options module) {members : List Member}
    (hkind : d.kind = .contract members) :
    ∃ doc svc, docs.get? document = some doc ∧
      doc.service? (Naming.serviceStem d.name) = some svc ∧ svc.docs = d.docs := by
  have haccepts := (translation_eq_ok_iff.mp h).1
  obtain ⟨additions, hadditions⟩ := haccepts.exists_additions _ hplaced
  have hmap := hadditions
  rw [Mapper.additions, hkind] at hmap
  obtain ⟨rpcs, -, rfl⟩ := ok_of_map_iff.mp hmap
  refine ⟨_, ⟨Naming.serviceStem d.name, d.docs, rpcs.map Rpc.method⟩,
    get?_of_mem_placement h hplaced, ?_, rfl⟩
  rw [service?_assemble, find?_name_eq_some_iff (haccepts.compatible document).nodup_services,
    mem_servicesOf_iff, haccepts.mem_addedAt_iff]
  exact ⟨⟨d, _, hplaced, hadditions, mem_contractAdditions_iff.mpr (.inr rfl)⟩, rfl⟩

/-- **What is said of declarations.**  In a package with distinct names, the message under the name
of a record has the documentation of the record, unless a contract placed before it in the same
document has made a message of that name; then it has none.  The service of a contract always has
the documentation of the contract. -/
theorem declared_docs (hnames : module.NamesDistinct) (h : translation options module = .ok docs) :
    (∀ before d document after fields,
      placement options module = before ++ (d, document) :: after → d.kind = .record fields →
        ∃ doc held, docs.get? document = some doc ∧ doc.message? d.name = some held ∧
          held.docs =
            if MadeAt (mapperFor options module) before document d.name then "" else d.docs) ∧
      ∀ d document members, (d, document) ∈ placement options module →
        d.kind = .contract members →
          ∃ doc svc, docs.get? document = some doc ∧
            doc.service? (Naming.serviceStem d.name) = some svc ∧ svc.docs = d.docs := by
  refine ⟨fun before d document after fields hplacement hkind => ?_,
    fun d document members hplaced hkind => exists_service_of_contract h hplaced hkind⟩
  have haccepts := (translation_eq_ok_iff.mp h).1
  have hfresh : d.name ∉ before.map fun p => p.1.name := by
    have hnodup := nodup_names_placement options hnames
    rw [hplacement, List.map_append, List.map_cons] at hnodup
    intro hmem
    exact (List.nodup_append.mp hnodup).2.2 _ hmem _ List.mem_cons_self rfl
  have hplaced : (d, document) ∈ placement options module := by
    rw [hplacement]
    exact List.mem_append_right _ List.mem_cons_self
  have hget := get?_of_mem_placement h hplaced
  rw [hplacement] at haccepts hget
  obtain ⟨held, hfind, hdocs⟩ := exists_find?_of_record haccepts hfresh hkind
  exact ⟨_, held, hget, (message?_assemble d.name).trans hfind, hdocs⟩

end Translations

/-! ## An example -/

/-- A contract that needs a list of goods. -/
def offersContract : Declaration :=
  ⟨"Catalog", "Goods on offer.", "shop.go", ⟨4, 1⟩,
    .contract [.method "All" [] [⟨none, .slice (.ofName "Widget")⟩] "" ⟨5, 2⟩]⟩

/-- A record of goods. -/
def goodsRecord : Declaration :=
  ⟨"Widget", "Something to sell.", "shop.go", ⟨9, 1⟩,
    .record [⟨some "Name", .ofName "string", Tag.empty, "", ⟨10, 2⟩⟩]⟩

/-- A record with the same name and content as the list that the contract needs. -/
def listRecord : Declaration :=
  ⟨"WidgetList", "Goods in order.", "shop.go", ⟨14, 1⟩,
    .record [⟨some "Widgets", .slice (.ofName "Widget"), Tag.empty, "", ⟨15, 2⟩⟩]⟩

/-- A package with comments on all of its declarations, the contract first. -/
def offers : Module where
  name := "shop"
  declarations := [offersContract, goodsRecord, listRecord]

/-- The document of the package. The list has no documentation. -/
def offersDocument : Document :=
  { newDocument .standard offers "shop.proto" with
    imports := TextSet.add .empty extensionsFile
    messages := [
      ⟨"CatalogAllOp", "", []⟩,
      ⟨"WidgetList", "", [⟨"widgets", "", 1,
        { FieldType.message "Widget" with repeated := true, origin? := some "shop.proto" },
        ⟨none, false, none⟩⟩]⟩,
      ⟨"Widget", "Something to sell.",
        [⟨"name", "", 1, .scalar "string", ⟨none, false, none⟩⟩]⟩]
    services := [⟨"Catalog", "Goods on offer.", [⟨"All", "", "CatalogAllOp", "WidgetList"⟩]⟩] }

theorem translation_offers :
    translation .standard offers = .ok (.ofList [("shop.proto", offersDocument)]) := by
  decide +kernel

/-- What is said of the contract and of the record of goods is kept. -/
theorem declared_docs_offers :
    offers.NamesDistinct ∧
      translation .standard offers = .ok (.ofList [("shop.proto", offersDocument)]) ∧
      (∃ held, offersDocument.message? "Widget" = some held ∧ held.docs = "Something to sell.") ∧
      ∃ svc, offersDocument.service? "Catalog" = some svc ∧ svc.docs = "Goods on offer." := by
  have hnames : offers.NamesDistinct := by decide
  have hplacement : placement .standard offers =
      [(offersContract, "shop.proto")] ++ (goodsRecord, "shop.proto") ::
        [(listRecord, "shop.proto")] := by
    decide +kernel
  have hcontract : (offersContract, "shop.proto") ∈ placement .standard offers := by
    rw [hplacement]
    exact List.mem_cons_self
  have hmade : ¬MadeAt (mapperFor .standard offers) [(offersContract, "shop.proto")] "shop.proto"
      goodsRecord.name := by
    decide +kernel
  obtain ⟨hrecords, hcontracts⟩ := declared_docs hnames translation_offers
  refine ⟨hnames, translation_offers, ?_, ?_⟩
  · obtain ⟨doc, held, hget, hheld, hdocs⟩ := hrecords _ _ _ _ _ hplacement rfl
    obtain rfl : offersDocument = doc := Option.some.inj hget
    exact ⟨held, hheld, hdocs.trans (if_neg hmade)⟩
  · obtain ⟨doc, svc, hget, hsvc, hdocs⟩ := hcontracts _ _ _ hcontract rfl
    obtain rfl : offersDocument = doc := Option.some.inj hget
    have hstem : Naming.serviceStem offersContract.name = "Catalog" := by decide +kernel
    rw [hstem] at hsvc
    exact ⟨svc, hsvc, hdocs⟩

/-- **The documentation of a record can be lost.**  The message of its name is the one that was made
for the contract before it. -/
theorem not_declared_docs_listRecord :
    ¬∀ (options : Options) (module : Module) (docs : Documents), module.NamesDistinct →
      translation options module = .ok docs →
        ∀ d document fields, (d, document) ∈ placement options module → d.kind = .record fields →
          ∃ doc held, docs.get? document = some doc ∧ doc.message? d.name = some held ∧
            held.docs = d.docs := by
  intro h
  have hplaced : (listRecord, "shop.proto") ∈ placement .standard offers := by decide +kernel
  obtain ⟨doc, held, hget, hheld, hdocs⟩ :=
    h .standard offers _ (by decide) translation_offers listRecord "shop.proto" _ hplaced rfl
  obtain rfl : offersDocument = doc := Option.some.inj hget
  obtain rfl := Option.some.inj hheld
  exact absurd hdocs (by decide)

end GoSchema.Mapping
