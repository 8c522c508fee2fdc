import GoSchema.Proofs.Mapping.Imports
import Mathlib.Data.List.Flatten

/-!
# One document or one for each file

A package can be written as one document or as one document for each of its files.  The two say
the same (`perFile_of_single`): where the single document can be made, so can the others, and
together they have its services, and its messages with the fields as they are written.

The two translations differ in where they place a record, and this is part of the type of every
field that refers to it.  Two messages of one name are only accepted if their fields are the same,
origins included, so it has to be excluded that a change of places makes a difference between
fields that were the same.

## Strategy

With the well-known overrides, the name and the kind of a type determine its origin
(`origin_resolve`).  So each type of one translation becomes the type of the other by
`Mapper.relocate`, a function of the type alone, and the same holds of fields, messages and
additions (`additions_relocate`).  Messages with the same fields stay messages with the same
fields.  What is written of a field does not mention the origin of its type, and so does not
change.

Nothing has to be assumed of the names of declarations: where a name is declared twice, both
translations see the same declaration of it.
-/

namespace GoSchema.Schema

/-- A field with another type. -/
def Field.mapType (g : FieldType → FieldType) (f : Field) : Field := { f with type := g f.type }

/-- A message whose fields have other types. -/
def Message.mapTypes (g : FieldType → FieldType) (msg : Message) : Message :=
  { msg with fields := msg.fields.map (Field.mapType g) }

/-- The name of a message and the declarations of its fields. -/
def Message.outline (msg : Message) : String × List String :=
  (msg.name, msg.fields.map Field.declaration)

end GoSchema.Schema

namespace GoSchema.Mapping

open Schema Go

/-! ## The origin of a type -/

namespace Mapper

/-- The origin of a type, as told by its name and its kind. -/
def originOf (m : Mapper) (type : FieldType) : Option String :=
  if type.isMessage then
    if type.name = "google.protobuf.Timestamp" then some "google/protobuf/timestamp.proto"
    else m.origins.get? type.name
  else none

/-- A type of another translation, with the origin that it has in this one. -/
def relocate (m : Mapper) (type : FieldType) : FieldType :=
  { type with origin? := m.originOf type }

section Origins

variable {m : Mapper} {origins : TextMap String}

/-- With the well-known overrides, the origin of a type is told by its name and its kind. -/
theorem origin_resolve (hoverrides : m.overrides = .wellKnown) (t : TypeExpr) :
    (m.resolve t).type.origin? = m.originOf (m.resolve t).type := by
  unfold originOf
  cases comesFrom_resolve (m := m) t with
  | scalar _ hkind horigin => rw [if_neg (not_isMessage_of_scalar hkind), horigin]
  | placeholder _ _ hkind horigin => rw [if_neg (not_isMessage_of_scalar hkind), horigin]
  | override key entry hget hname hkind horigin =>
      have hentry : entry ∈ Overrides.wellKnown.values :=
        (TextMap.mem_values_iff ..).mpr ⟨key, hoverrides ▸ hget⟩
      -- the only message in the table has its own name and its own document
      have hknown : ∀ entry ∈ Overrides.wellKnown.values, entry.origin? =
          if entry.kind = .message then some "google/protobuf/timestamp.proto" else none := by
        decide +kernel
      have hnamed : ∀ entry ∈ Overrides.wellKnown.values, entry.kind = .message →
          entry.name = "google.protobuf.Timestamp" := by
        decide +kernel
      rw [horigin, hknown entry hentry, hname, FieldType.isMessage, hkind]
      cases hmessage : entry.kind with
      | scalar => rfl
      | message => rw [hnamed entry hentry hmessage]; rfl
  | record d fields _ _ hexported hkind horigin =>
      -- no name of a record has a lower-case first letter
      have hne : (m.resolve t).type.name ≠ "google.protobuf.Timestamp" := by
        intro hname
        rw [hname] at hexported
        exact absurd hexported (by decide +kernel)
      rw [FieldType.isMessage, hkind, if_pos (by decide), if_neg hne, horigin]

/-- A resolution without the origin of its type. -/
private def eraseOrigin (r : Resolution) : Resolution :=
  { r with type := { r.type with origin? := none } }

/-- Two functions resolve types alike, origins apart. -/
private def AlikeButOrigins (follow follow' : TypeExpr → Resolution) : Prop :=
  ∀ t, eraseOrigin (follow t) = eraseOrigin (follow' t)

private theorem eraseOrigin_castTo (name : String) (r : Resolution) :
    eraseOrigin (r.castTo name) = (eraseOrigin r).castTo name := by
  have hplaceholder : Resolution.isPlaceholder (eraseOrigin r).type =
      Resolution.isPlaceholder r.type := rfl
  unfold Resolution.castTo
  rw [hplaceholder]
  show _ = if r.type.isMessage || r.type.repeated || _ then _ else _
  split_ifs <;> rfl

private theorem eraseOrigin_sequence (whole element : TypeExpr) (r : Resolution) :
    eraseOrigin (resolveBy.sequence m whole element r) =
      eraseOrigin (resolveBy.sequence m whole element (eraseOrigin r)) := by
  unfold resolveBy.sequence
  show _ = eraseOrigin (if _ then _ else if r.type.repeated then _ else _)
  split_ifs <;> rfl

private theorem eraseOrigin_name {follow? follow'? : Option (TypeExpr → Resolution)}
    (hfollow : Option.Rel AlikeButOrigins follow? follow'?) (name : String) :
    eraseOrigin ({ m with origins }.resolveBy follow? (.named none name)) =
      eraseOrigin (m.resolveBy follow'? (.named none name)) := by
  -- what decides how a name is resolved is not the origins
  have hkey : { m with origins }.key (.ofName name) = m.key (.ofName name) := rfl
  unfold resolveBy
  dsimp only
  rw [hkey]
  cases (primitive? name).or (m.overrides.get? (m.key (.ofName name))) with
  | some type => rfl
  | none =>
      cases (m.module.lookup? name).map Declaration.kind with
      | none => rfl
      | some kind =>
          cases kind with
          | record fields =>
              dsimp only
              split_ifs <;> rfl
          | contract members => rfl
          | defined underlying =>
              cases hfollow with
              | none => rfl
              | some hsame =>
                  dsimp only
                  rw [eraseOrigin_castTo, eraseOrigin_castTo]
                  exact congrArg (Resolution.castTo name) (hsame underlying)

private theorem eraseOrigin_resolveBy {follow? follow'? : Option (TypeExpr → Resolution)}
    (hfollow : Option.Rel AlikeButOrigins follow? follow'?) (t : TypeExpr) :
    eraseOrigin ({ m with origins }.resolveBy follow? t) =
      eraseOrigin (m.resolveBy follow'? t) := by
  have hsequence : resolveBy.sequence { m with origins } = resolveBy.sequence m := rfl
  induction t with
  | named package? name =>
      cases package? with
      | none => exact eraseOrigin_name hfollow name
      | some package => rfl
  | pointer target ih => exact congrArg Resolution.pointer ih
  | slice element ih =>
      rw [resolveBy, resolveBy, hsequence, eraseOrigin_sequence, ih, ← eraseOrigin_sequence]
  | array length element ih =>
      rw [resolveBy, resolveBy, hsequence, eraseOrigin_sequence, ih, ← eraseOrigin_sequence]
  | map key value => rfl
  | verbatim text => rfl

private theorem alikeButOrigins_resolveWithin (definitions : Nat) :
    AlikeButOrigins ({ m with origins }.resolveWithin definitions)
      (m.resolveWithin definitions) := by
  induction definitions with
  | zero => exact eraseOrigin_resolveBy .none
  | succ definitions ih => exact eraseOrigin_resolveBy (.some ih)

/-- **Only the origin of a type depends on where records are placed**, and it can be told from the
type. -/
theorem resolve_relocate (m : Mapper) (origins : TextMap String)
    (hoverrides : m.overrides = .wellKnown) (t : TypeExpr) :
    ({ m with origins }.resolve t).type = { m with origins }.relocate (m.resolve t).type := by
  calc ({ m with origins }.resolve t).type
      = { m with origins }.relocate ({ m with origins }.resolve t).type := by
        rw [relocate, ← origin_resolve (m := { m with origins }) hoverrides]
    _ = { m with origins }.relocate (eraseOrigin ({ m with origins }.resolve t)).type := rfl
    _ = { m with origins }.relocate (eraseOrigin (m.resolve t)).type := by
        rw [resolve, alikeButOrigins_resolveWithin, resolve]
    _ = { m with origins }.relocate (m.resolve t).type := rfl

end Origins

end Mapper

/-! ## What is added -/

/-- What stands for the members of a method, with other types. -/
def Reduction.mapTypes (g : FieldType → FieldType) : Reduction → Reduction
  | reuse type => reuse (g type)
  | wrap message => wrap (message.mapTypes g)

/-- A method whose messages have other types. -/
def Rpc.mapTypes (g : FieldType → FieldType) (r : Rpc) : Rpc :=
  { r with argument := r.argument.mapTypes g, returns := r.returns.mapTypes g }

/-- What is added to a document, with other types. -/
def Addition.mapTypes (g : FieldType → FieldType) : Addition → Addition
  | message msg => message (msg.mapTypes g)
  | reuse type => reuse (g type)
  | service svc => service svc

namespace Mapper

section Additions

variable {m m' : Mapper} (h : ∀ t, (m'.resolve t).type = m'.relocate (m.resolve t).type)
include h

theorem value_message_relocate (name docs : String) (sources : List Go.Field) :
    (m'.message name docs sources).value =
      (m.message name docs sources).value.map (Message.mapTypes m'.relocate) := by
  have hfield (f : Go.Field) (tag : Nat) (name : String × Bool) :
      m'.schemaField f tag name = (m.schemaField f tag name).mapType m'.relocate := by
    rw [schemaField, h]
    rfl
  have hfields := value_fields_map id (Field.mapType m'.relocate) (fun _ => rfl) hfield
    (fun _ => rfl) (fun _ => rfl) name 1 sources
  rw [List.map_id] at hfields
  rw [value_message, value_message, hfields]
  cases (m.fields name 1 sources).value <;> rfl

theorem value_reduce_relocate (wrapperName : String) (members : List Param) :
    (m'.reduce wrapperName members).value =
      (m.reduce wrapperName members).value.map (Reduction.mapTypes m'.relocate) := by
  have hwrap (x : Except Refusal Message) :
      (x.map (Message.mapTypes m'.relocate)).map Reduction.wrap =
        (x.map Reduction.wrap).map (Reduction.mapTypes m'.relocate) := by
    cases x <;> rfl
  by_cases hsingle : ∃ only, members = [only]
  · obtain ⟨only, rfl⟩ := hsingle
    have hmessage : (m'.relocate (m.resolve only.type).type).isMessage =
        (m.resolve only.type).type.isMessage := rfl
    have hrepeated : (m'.relocate (m.resolve only.type).type).repeated =
        (m.resolve only.type).type.repeated := rfl
    rw [value_reduce_singleton, value_reduce_singleton, h, hmessage, hrepeated]
    -- a list, a message in itself, and a wrapper
    split_ifs
    · rw [← hwrap, listMessage, value_message_relocate h]
      rfl
    · rfl
    · rw [← hwrap, value_message_relocate h]
  · have hne : ∀ only, members ≠ [only] := fun only hsame => hsingle ⟨only, hsame⟩
    rw [value_reduce_of_ne_singleton m' wrapperName hne,
      value_reduce_of_ne_singleton m wrapperName hne, ← hwrap, value_message_relocate h]

theorem rpcs_relocate (stem : String) (members : List Member) :
    m'.rpcs stem members = (m.rpcs stem members).map (List.map (Rpc.mapTypes m'.relocate)) := by
  induction members with
  | nil => rfl
  | cons member rest ih =>
      cases member with
      | embedded type? docs pos => exact ih
      | method name params results docs pos =>
          simp only [rpcs, rpc, ih, value_reduce_relocate h]
          -- the first refusal ends both runs
          cases (m.reduce (stem ++ name ++ argumentSuffix) (withoutContext params)).value with
          | error refusal => rfl
          | ok argument =>
              cases (m.reduce (stem ++ name ++ returnSuffix) (withoutError results)).value with
              | error refusal => rfl
              | ok returns => cases m.rpcs stem rest <;> rfl

/-- What a declaration adds when records are placed elsewhere. -/
theorem additions_relocate (d : Declaration) :
    m'.additions d = (m.additions d).map (List.map (Addition.mapTypes m'.relocate)) := by
  have hname (r : Reduction) : (r.mapTypes m'.relocate).name = r.name := by cases r <;> rfl
  have hmethod (rpc : Rpc) : (rpc.mapTypes m'.relocate).method = rpc.method := by
    simp only [Rpc.method, Rpc.mapTypes, hname]
  have hadditions (rpc : Rpc) : (rpc.mapTypes m'.relocate).additions =
      rpc.additions.map (Addition.mapTypes m'.relocate) := by
    cases hargument : rpc.argument <;> cases hreturns : rpc.returns <;>
      simp only [Rpc.additions, Rpc.mapTypes, hargument, hreturns] <;> rfl
  unfold additions
  cases d.kind with
  | record fields =>
      dsimp only
      rw [value_message_relocate h]
      cases (m.message d.name d.docs fields).value <;> rfl
  | contract members =>
      dsimp only
      rw [rpcs_relocate h]
      cases m.rpcs (Naming.serviceStem d.name) members with
      | error refusal => rfl
      | ok rpcs =>
          refine congrArg Except.ok (contractAdditions_map hadditions ?_)
          simp only [Addition.mapTypes, List.map_map, Function.comp_def, hmethod]
  | defined type => rfl

theorem added_relocate (d : Declaration) :
    m'.added d = (m.added d).map (Addition.mapTypes m'.relocate) := by
  rw [added, added, additions_relocate h]
  cases m.additions d <;> rfl

end Additions

end Mapper

section Parts

variable {additions : List Addition}

theorem messagesOf_map_mapTypes (g : FieldType → FieldType) (additions : List Addition) :
    messagesOf (additions.map (Addition.mapTypes g)) =
      (messagesOf additions).map (Message.mapTypes g) := by
  rw [messagesOf, messagesOf, List.filterMap_map, List.map_filterMap]
  exact List.filterMap_congr fun a _ => by cases a <;> rfl

theorem servicesOf_map_mapTypes (g : FieldType → FieldType) (additions : List Addition) :
    servicesOf (additions.map (Addition.mapTypes g)) = servicesOf additions := by
  rw [servicesOf, servicesOf, List.filterMap_map]
  exact List.filterMap_congr fun a _ => by cases a <;> rfl

/-- Messages with the same fields have the same fields when types are changed alike. -/
theorem Compatible.mapTypes (h : Compatible additions) (g : FieldType → FieldType) :
    Compatible (additions.map (Addition.mapTypes g)) := by
  rw [compatible_iff, messagesOf_map_mapTypes, servicesOf_map_mapTypes]
  refine ⟨?_, h.nodup_services⟩
  intro first hfirst second hsecond hname
  obtain ⟨msg, hmsg, rfl⟩ := List.mem_map.mp hfirst
  obtain ⟨msg', hmsg', rfl⟩ := List.mem_map.mp hsecond
  exact congrArg (List.map (Field.mapType g)) (h.fieldsAgree msg hmsg msg' hmsg' hname)

/-- The origin of a type is not written. -/
theorem outline_mapTypes_relocate (m : Mapper) (msg : Message) :
    (msg.mapTypes m.relocate).outline = msg.outline := by
  have hdeclaration (f : Schema.Field) :
      (f.mapType m.relocate).declaration = f.declaration := rfl
  simp only [Message.outline, Message.mapTypes, List.map_map, Function.comp_def, hdeclaration]

end Parts

/-! ## The two groupings -/

section Groupings

variable {options : Options} {module : Module} {docs : Documents} {m m' : Mapper}

theorem addedAt_placement (m : Mapper) (options : Options) (module : Module) (name : String) :
    m.addedAt (placement options module) name =
      ((select options.filter module.declarations).filter fun d =>
        documentName options module.name d = name).flatMap m.added := by
  rw [Mapper.addedAt, placement, List.filter_map, List.flatMap_map]
  rfl

/-- Where one document has room for all declarations, each of several documents has room for its
own. -/
theorem accepts_perFile (hsame : ∀ t, (m'.resolve t).type = m'.relocate (m.resolve t).type)
    (h : m.Accepts (placement { options with grouping := .single } module)) :
    m'.Accepts (placement { options with grouping := .perFile } module) := by
  -- all selected declarations are placed in the single document
  have hcompatible :
      Compatible ((select options.filter module.declarations).flatMap m.added) := by
    have hsingle := h.compatible (options.outputName?.getD (module.name ++ ".proto"))
    rw [addedAt_placement, List.filter_eq_self.mpr (by simp [documentName])] at hsingle
    exact hsingle
  refine ⟨fun p hp => ?_, fun name => ?_⟩
  · obtain ⟨d, hd, rfl⟩ := List.mem_map.mp hp
    obtain ⟨additions, hadditions⟩ := h.exists_additions_of_mem_select hd
    refine ⟨additions.map (Addition.mapTypes m'.relocate), ?_⟩
    rw [Mapper.additions_relocate hsame, hadditions]
    rfl
  · -- the additions of one file are some of all additions, with records placed elsewhere
    have hadded : m'.added = fun d => (m.added d).map (Addition.mapTypes m'.relocate) :=
      funext (Mapper.added_relocate hsame)
    rw [addedAt_placement, hadded, ← List.map_flatMap]
    exact (hcompatible.sublist (List.filter_sublist.flatMap m.added)).mapTypes m'.relocate

/-- **The two groupings agree.**  Where all declarations can be written as one document, they can be
written as one document for each file, and these together have the same messages with the same
declarations of fields, and the same services. -/
theorem perFile_of_single (hoverrides : options.overrides = .wellKnown)
    (h : translation { options with grouping := .single } module = .ok docs) :
    ∃ docs', translation { options with grouping := .perFile } module = .ok docs' ∧
      (∀ outline, outline ∈ docs'.messages.map Message.outline ↔
        outline ∈ docs.messages.map Message.outline) ∧
      ∀ svc, svc ∈ docs'.services ↔ svc ∈ docs.services := by
  have hsame : ∀ t, ((mapperFor { options with grouping := .perFile } module).resolve t).type =
      (mapperFor { options with grouping := .perFile } module).relocate
        ((mapperFor { options with grouping := .single } module).resolve t).type :=
    Mapper.resolve_relocate (mapperFor { options with grouping := .single } module) _ hoverrides
  have haccepts := accepts_perFile hsame (translation_eq_ok_iff.mp h).1
  have hadded := Mapper.added_relocate hsame
  obtain ⟨docs', h'⟩ : ∃ docs', translation { options with grouping := .perFile } module =
      .ok docs' := ⟨_, translation_eq_ok_iff.mpr ⟨haccepts, rfl⟩⟩
  refine ⟨docs', h', fun outline => ?_, fun svc => ?_⟩
  · -- both hold the messages that the selected declarations add
    have hwritten {options : Options} {docs : Documents}
        (h : translation options module = .ok docs) :
        outline ∈ docs.messages.map Message.outline ↔
          ∃ d ∈ select options.filter module.declarations,
            outline ∈ (messagesOf ((mapperFor options module).added d)).map Message.outline := by
      simp only [List.mem_map]
      exact exists_message_iff h fun name fields =>
        (name, fields.map Field.declaration) = outline
    rw [hwritten h', hwritten h]
    refine exists_congr fun d => and_congr_right fun _ => ?_
    rw [hadded, messagesOf_map_mapTypes, List.map_map]
    simp only [Function.comp_def, outline_mapTypes_relocate]
  · rw [mem_services_iff h', mem_services_iff h]
    refine exists_congr fun d => and_congr_right fun _ => ?_
    rw [hadded, servicesOf_map_mapTypes]

end Groupings

/-! ## An example -/

/-- The document of the package: it has the messages of both files. -/
def depotDocument : Document :=
  { newDocument .standard depot "depot.proto" with
    imports := (TextSet.add .empty extensionsFile).add "google/protobuf/timestamp.proto"
    messages := widgetDocument.messages ++ storeDocument.messages
    services := storeDocument.services }

theorem translation_depot_single :
    translation .standard depot = .ok (.ofList [("depot.proto", depotDocument)]) := by
  decide +kernel

/-- The documents of the two files together have the messages and the service of the single
document. -/
theorem perFile_depot :
    translation .standard depot = .ok (.ofList [("depot.proto", depotDocument)]) ∧
      ∃ docs', translation perFileOptions depot = .ok docs' ∧
        (∀ outline, outline ∈ docs'.messages.map Message.outline ↔
          outline ∈ [
            ("Widget", ["google.protobuf.Timestamp made = 1 [(ext.nullable) = false]"]),
            ("StoreGetOp", ["string id = 1"])]) ∧
        ∀ svc, svc ∈ docs'.services ↔
          svc = ⟨"Store", "", [⟨"Get", "", "StoreGetOp", "Widget"⟩]⟩ := by
  obtain ⟨docs', h', hmessages, hservices⟩ :=
    @perFile_of_single .standard depot _ rfl translation_depot_single
  have houtlines : (Documents.messages (.ofList [("depot.proto", depotDocument)])).map
      Message.outline =
        [("Widget", ["google.protobuf.Timestamp made = 1 [(ext.nullable) = false]"]),
          ("StoreGetOp", ["string id = 1"])] := by
    decide +kernel
  have hservice : Documents.services (.ofList [("depot.proto", depotDocument)]) =
      [⟨"Store", "", [⟨"Get", "", "StoreGetOp", "Widget"⟩]⟩] := rfl
  refine ⟨translation_depot_single, docs', h', fun outline => ?_, fun svc => ?_⟩
  · rw [hmessages, houtlines]
  · rw [hservices, hservice, List.mem_singleton]

end GoSchema.Mapping
