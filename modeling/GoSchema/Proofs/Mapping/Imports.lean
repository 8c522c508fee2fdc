import GoSchema.Proofs.Mapping.Content

/-!
# What a document imports

A file has to be imported where something that it declares is used.  In the documents of a package
there are three such uses: the type of a field can be declared elsewhere, a method can take or
return a message that is declared elsewhere, and a field can be written with an extension option.
`Needs` says this of a finished document, and `mem_imports_iff` that its imports are exactly the
files that it needs, itself apart.

Imports are entered along two paths, with the messages that are registered and with the messages
that methods use as they are.  Each is an addition with its own `Addition.imports`, so the set is
known from the additions; what remains is to read the additions off the document and its
contracts.  A message that is registered again and not kept adds no import of its own, because the
one that is kept has the same fields.
-/

namespace GoSchema.Mapping

open Schema Go

/-! ## The statement -/

/-- The types of the messages that the methods of a contract take or return as they are. -/
def Mapper.reusedTypes (m : Mapper) (members : List Member) : List FieldType :=
  (memberLists members).filterMap m.reused?

/-- A document with the given contracts needs a file: the file declares the type of a field, or a
message that a method takes or returns as it is, or the extension options, one of which is written
with a field. -/
def Needs (m : Mapper) (contracts : List (String × List Member)) (doc : Document)
    (path : String) : Prop :=
  (∃ msg ∈ doc.messages, ∃ f ∈ msg.fields, f.type.origin? = some path) ∨
  (∃ contract ∈ contracts, ∃ type ∈ m.reusedTypes contract.2, type.origin? = some path) ∨
  path = extensionsFile ∧ ∃ msg ∈ doc.messages, ∃ f ∈ msg.fields, f.options ≠ []

/-! ## Imports of messages -/

/-- What the fields of a message need. -/
def FieldsNeed (path : String) (fields : List Schema.Field) : Prop :=
  (∃ f ∈ fields, f.type.origin? = some path) ∨
    path = extensionsFile ∧ ∃ f ∈ fields, f.options ≠ []

theorem mem_importsOf_iff {msg : Message} {path : String} :
    path ∈ importsOf msg ↔ FieldsNeed path msg.fields := by
  have huses : msg.fields.any Field.usesExtensions ↔ ∃ f ∈ msg.fields, f.options ≠ [] := by
    simp [Field.usesExtensions]
  rw [importsOf, List.mem_append, List.mem_filterMap, FieldsNeed, ← huses]
  refine or_congr_right ?_
  split
  case isTrue hany => simp [hany]
  case isFalse hany => simp [hany]

/-- The two ways in which a message needs a file. -/
theorem exists_fieldsNeed_iff {messages : List Message} {path : String} :
    (∃ msg ∈ messages, FieldsNeed path msg.fields) ↔
      (∃ msg ∈ messages, ∃ f ∈ msg.fields, f.type.origin? = some path) ∨
        path = extensionsFile ∧ ∃ msg ∈ messages, ∃ f ∈ msg.fields, f.options ≠ [] := by
  constructor
  · rintro ⟨msg, hmsg, horigin | ⟨hpath, hoptions⟩⟩
    · exact Or.inl ⟨msg, hmsg, horigin⟩
    · exact Or.inr ⟨hpath, msg, hmsg, hoptions⟩
  · rintro (⟨msg, hmsg, horigin⟩ | ⟨hpath, msg, hmsg, hoptions⟩)
    · exact ⟨msg, hmsg, Or.inl horigin⟩
    · exact ⟨msg, hmsg, Or.inr ⟨hpath, hoptions⟩⟩

/-! ## Messages that methods use as they are -/

section Reused

variable {m : Mapper} {placed : Placement} {name : String} {type : FieldType}

theorem reuse_mem_contractAdditions_iff {stem docs : String} {members : List Member}
    {rpcs : List Rpc} (h : m.rpcs stem members = .ok rpcs) :
    Addition.reuse type ∈ contractAdditions stem docs rpcs ↔ type ∈ m.reusedTypes members := by
  have hreduce (wrapperName : String) (list : List Param) (r : Reduction)
      (hr : (m.reduce wrapperName list).value = .ok r) :
      Addition.reuse type = r.addition ↔ m.reused? list = some type := by
    rcases Mapper.value_reduce_eq_ok_cases hr with ⟨_, hreused, -, rfl⟩ | ⟨_, hreused, -, rfl⟩
    · simp [Reduction.addition, hreused, eq_comm]
    · simp [Reduction.addition, hreused]
  rw [mem_contractAdditions_iff, Mapper.exists_rpc_iff hreduce h, Mapper.reusedTypes,
    List.mem_filterMap]
  simp

theorem reuse_mem_added_iff {d : Declaration} {additions : List Addition}
    (h : m.additions d = .ok additions) :
    Addition.reuse type ∈ additions ↔
      ∃ members, d.kind = .contract members ∧ type ∈ m.reusedTypes members := by
  rcases Mapper.additions_eq_ok_cases h with
    ⟨fields, message, hkind, -, rfl⟩ | ⟨members, rpcs, hkind, hrpcs, rfl⟩ | ⟨_, hkind, rfl⟩
  · simp [hkind]
  · rw [reuse_mem_contractAdditions_iff hrpcs]
    simp [hkind]
  · simp [hkind]

theorem mem_contractsAt_iff {contract : String × List Member} :
    contract ∈ contractsAt placed name ↔
      ∃ d, (d, name) ∈ placed ∧ d.kind = .contract contract.2 ∧ d.name = contract.1 := by
  simp only [contractsAt, List.mem_filterMap]
  constructor
  · rintro ⟨⟨d, document⟩, hplaced, hcontract⟩
    cases hkind : d.kind with
    | record fields => simp [hkind] at hcontract
    | defined type => simp [hkind] at hcontract
    | contract members =>
        simp only [hkind, Option.ite_none_right_eq_some, Option.some.injEq] at hcontract
        obtain ⟨rfl, rfl⟩ := hcontract
        exact ⟨d, hplaced, hkind, rfl⟩
  · rintro ⟨d, hplaced, hkind, hname⟩
    exact ⟨(d, name), hplaced, by simp [hkind, hname]⟩

/-- The messages that are used as they are in a document are those of the contracts placed there. -/
theorem reuse_mem_addedAt_iff (haccepts : m.Accepts placed) :
    Addition.reuse type ∈ m.addedAt placed name ↔
      ∃ contract ∈ contractsAt placed name, type ∈ m.reusedTypes contract.2 := by
  rw [haccepts.mem_addedAt_iff]
  constructor
  · rintro ⟨d, additions, hplaced, hadditions, hadded⟩
    obtain ⟨members, hkind, htype⟩ := (reuse_mem_added_iff hadditions).mp hadded
    exact ⟨(d.name, members), mem_contractsAt_iff.mpr ⟨d, hplaced, hkind, rfl⟩, htype⟩
  · rintro ⟨contract, hcontract, htype⟩
    obtain ⟨d, hplaced, hkind, -⟩ := mem_contractsAt_iff.mp hcontract
    obtain ⟨additions, hadditions⟩ := haccepts.exists_additions _ hplaced
    exact ⟨d, additions, hplaced, hadditions,
      (reuse_mem_added_iff hadditions).mpr ⟨contract.2, hkind, htype⟩⟩

end Reused

/-! ## The imports of a document -/

theorem mem_flatMap_imports_iff {additions : List Addition} {path : String} :
    path ∈ additions.flatMap Addition.imports ↔
      (∃ msg ∈ messagesOf additions, FieldsNeed path msg.fields) ∨
        ∃ type, Addition.reuse type ∈ additions ∧ type.origin? = some path := by
  rw [List.mem_flatMap]
  constructor
  · rintro ⟨a, ha, hpath⟩
    cases a with
    | message msg =>
        exact Or.inl ⟨msg, mem_messagesOf_iff.mpr ha, mem_importsOf_iff.mp hpath⟩
    | reuse type => exact Or.inr ⟨type, ha, Option.mem_toList.mp hpath⟩
    | service svc => cases hpath
  · rintro (⟨msg, hmsg, hneed⟩ | ⟨type, ha, horigin⟩)
    · exact ⟨_, mem_messagesOf_iff.mp hmsg, mem_importsOf_iff.mpr hneed⟩
    · exact ⟨_, ha, Option.mem_toList.mpr horigin⟩

/-- **Imports are exact.**  A document of a translation imports the files that it needs, itself
apart, and no others. -/
theorem mem_imports_iff {options : Options} {module : Module} {docs : Documents} {name : String}
    {doc : Document} (h : translation options module = .ok docs)
    (hget : docs.get? name = some doc) (path : String) :
    path ∈ doc.imports ↔
      Needs (mapperFor options module) (contractsAt (placement options module) name) doc path ∧
        path ≠ doc.fileName := by
  have haccepts := (translation_eq_ok_iff.mp h).1
  -- what is needed is told by the messages that are kept, and there are no imports at first
  have hmessages := exists_firsts_iff (haccepts.compatible name).fieldsAgree
    fun _ fields => FieldsNeed path fields
  have hempty : path ∉ (TextMap.empty : TextSet) := by simp [TextSet.mem_iff]
  obtain rfl := get?_of_translation_eq_ok h hget
  show path ∈ withImports _ _ _ ↔ _
  rw [mem_withImports_iff, mem_flatMap_imports_iff, ← hmessages, exists_fieldsNeed_iff]
  show path ∈ (TextMap.empty : TextSet) ∨ _ ↔ _
  rw [or_iff_right hempty]
  refine and_congr_left fun _ => ?_
  simp only [reuse_mem_addedAt_iff haccepts, Needs]
  show (_ ∨ _) ∨ _ ↔ _
  constructor
  · rintro ((horigin | hoptions) | ⟨type, ⟨contract, hcontract, htype⟩, horigin⟩)
    · exact Or.inl horigin
    · exact Or.inr (Or.inr hoptions)
    · exact Or.inr (Or.inl ⟨contract, hcontract, type, htype, horigin⟩)
  · rintro (horigin | ⟨contract, hcontract, type, htype, horigin⟩ | hoptions)
    · exact Or.inl (Or.inl horigin)
    · exact Or.inr ⟨type, ⟨contract, hcontract, htype⟩, horigin⟩
    · exact Or.inl (Or.inr hoptions)

/-! ## An example -/

/-- A package of two files: a record with the time when it was made, and a contract that returns
the record. -/
def depot : Module where
  name := "depot"
  declarations := [
    ⟨"Widget", "", "widget.go", ⟨3, 1⟩,
      .record [⟨some "Made", .named (some "time") "Time", Tag.empty, "", ⟨4, 2⟩⟩]⟩,
    ⟨"Store", "", "store.go", ⟨3, 1⟩,
      .contract [.method "Get" [⟨some "id", .ofName "string"⟩]
        [⟨none, .pointer (.ofName "Widget")⟩, ⟨none, .ofName "error"⟩] "" ⟨4, 2⟩]⟩]

/-- The options for a document for each file. -/
def perFileOptions : Options := { Options.standard with grouping := .perFile }

/-- The document of the record. -/
def widgetDocument : Document :=
  { newDocument perFileOptions depot "widget.proto" with
    imports := (TextSet.add .empty extensionsFile).add "google/protobuf/timestamp.proto"
    messages := [⟨"Widget", "", [⟨"made", "", 1,
      { FieldType.message "google.protobuf.Timestamp" with
        origin? := some "google/protobuf/timestamp.proto" }, ⟨none, false, none⟩⟩]⟩] }

/-- The document of the contract. It needs that of the record for the result of the method. -/
def storeDocument : Document :=
  { newDocument perFileOptions depot "store.proto" with
    imports := TextSet.add .empty "widget.proto"
    messages := [⟨"StoreGetOp", "", [⟨"id", "", 1, .scalar "string", ⟨none, false, none⟩⟩]⟩]
    services := [⟨"Store", "", [⟨"Get", "", "StoreGetOp", "Widget"⟩]⟩] }

theorem translation_depot : translation perFileOptions depot =
    .ok (.ofList [("store.proto", storeDocument), ("widget.proto", widgetDocument)]) := by
  decide +kernel

/-- The document of the contract imports that of the record because a method returns the record,
and nothing else. -/
theorem imports_depot :
    translation perFileOptions depot =
      .ok (.ofList [("store.proto", storeDocument), ("widget.proto", widgetDocument)]) ∧
    "widget.proto" ∈ storeDocument.imports ∧
    Needs (mapperFor perFileOptions depot)
      (contractsAt (placement perFileOptions depot) "store.proto") storeDocument "widget.proto" ∧
    ¬Needs (mapperFor perFileOptions depot)
      (contractsAt (placement perFileOptions depot) "store.proto") storeDocument
      extensionsFile := by
  have hget : (TextMap.ofList [("store.proto", storeDocument), ("widget.proto", widgetDocument)]).get?
      "store.proto" = some storeDocument := rfl
  have himports := mem_imports_iff translation_depot hget
  have hwidget : "widget.proto" ∈ storeDocument.imports := by decide
  refine ⟨translation_depot, hwidget, ((himports _).mp hwidget).1, fun hneeds => ?_⟩
  have hnot : extensionsFile ∉ storeDocument.imports := by decide
  exact hnot ((himports _).mpr ⟨hneeds, by decide⟩)

end GoSchema.Mapping
