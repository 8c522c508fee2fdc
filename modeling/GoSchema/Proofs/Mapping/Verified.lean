import GoSchema.Proofs.Mapping.Content
import GoSchema.Proofs.Schema.Verify

/-!
# Documents that can be written

Nothing is written of a document that does not pass `Document.verify`.  The documents of a package
are all sound (`verify_iff_of_translation`), so that there is one thing left to fail: a message
with two fields of one name, or a service with two methods of one name.  This can happen, because
different names of the source can have the same schema name.

What soundness asks for comes from different places.  Names of messages and services are distinct
because a document refuses or merges repeated ones (`Compatible`, `firsts`); tags count up because
fields that are passed over take none (`map_tag_schemaFields`); a field with both labels is
refused by its message (`message_eq_of_ok`).  Types have names because of where they come from
(`comesFrom_resolve`), as long as no override is without a name.
-/

namespace GoSchema.Mapping

open Schema Go

/-! ## Names of types -/

section Names

variable {m : Mapper}

/-- No override is without a name. -/
def NamesGiven (overrides : Overrides) : Prop := ∀ type ∈ overrides.values, type.name ≠ ""

instance (overrides : Overrides) : Decidable (NamesGiven overrides) :=
  inferInstanceAs (Decidable (∀ type ∈ overrides.values, type.name ≠ ""))

private theorem append_ne_empty {first second : String} (h : first ≠ "" ∨ second ≠ "") :
    first ++ second ≠ "" := by
  intro hempty
  obtain ⟨hfirst, hsecond⟩ := String.append_eq_empty_iff.mp hempty
  rcases h with h | h
  · exact h hfirst
  · exact h hsecond

private theorem ne_empty_of_isExported {name : String} (h : Naming.isExported name) :
    name ≠ "" := by
  rintro rfl
  exact absurd h (by decide)

/-- Every type has a name. -/
theorem name_resolve_ne_empty (hgiven : NamesGiven m.overrides) (t : TypeExpr) :
    (m.resolve t).type.name ≠ "" := by
  cases Mapper.comesFrom_resolve (m := m) t with
  | scalar hname _ _ =>
      have hnames : ∀ name ∈ Mapper.scalarNames, name ≠ "" := by decide
      exact hnames _ hname
  | placeholder key hname _ _ =>
      rw [hname]
      exact append_ne_empty (.inl (by decide))
  | override key entry hget hname _ _ =>
      rw [hname]
      exact hgiven entry ((TextMap.mem_values_iff ..).mpr ⟨key, hget⟩)
  | record d fields hlookup hrecord hexported _ _ => exact ne_empty_of_isExported hexported

end Names

/-! ## Sound additions -/

/-- An addition that leaves a document sound: what it declares is declared properly. -/
def Addition.Sound : Addition → Prop
  | .message msg => msg.Sound
  | .reuse _ => True
  | .service svc => ∀ method ∈ svc.methods, method.Typed

section Additions

variable {m : Mapper} (hgiven : NamesGiven m.overrides)
include hgiven

theorem sound_of_message_eq_ok {name docs : String} {sources : List Go.Field} {message : Message}
    (h : (m.message name docs sources).value = .ok message) : message.Sound := by
  obtain ⟨rfl, hlabels⟩ := Mapper.message_eq_of_ok h
  refine ⟨fun f hf => ⟨hlabels f hf, ?_⟩, Mapper.map_tag_schemaFields 1 sources⟩
  obtain ⟨t, htype⟩ := Mapper.exists_resolve_of_mem_message h hf
  rw [htype]
  exact name_resolve_ne_empty hgiven t

/-- What stands for some members has a name and is declared properly. -/
theorem sound_of_reduce_eq_ok {wrapperName : String} {members : List Param} {r : Reduction}
    (hwrapper : wrapperName ≠ "") (h : (m.reduce wrapperName members).value = .ok r) :
    r.name ≠ "" ∧ r.addition.Sound := by
  rcases Mapper.value_reduce_eq_ok_cases h with ⟨type, hreused, -, rfl⟩ | ⟨message, -, hmade, rfl⟩
  · obtain ⟨-, t, rfl⟩ := Mapper.exists_resolve_of_reused hreused
    exact ⟨name_resolve_ne_empty hgiven t, trivial⟩
  · refine ⟨?_, sound_of_message_eq_ok hgiven hmade⟩
    obtain ⟨rfl, -⟩ := Mapper.message_eq_of_ok hmade
    show m.madeName wrapperName members ≠ ""
    unfold Mapper.madeName
    split
    · split
      · exact append_ne_empty (.inr (by decide))
      · exact hwrapper
    · exact hwrapper

/-- All that a declaration adds is declared properly. -/
theorem sound_of_mem_additions {d : Declaration} {additions : List Addition}
    (h : m.additions d = .ok additions) {a : Addition} (ha : a ∈ additions) : a.Sound := by
  rcases Mapper.additions_eq_ok_cases h with
    ⟨fields, message, -, hmessage, rfl⟩ | ⟨members, rpcs, -, hrpcs, rfl⟩ | ⟨_, -, rfl⟩
  · rw [List.mem_singleton.mp ha]
    exact sound_of_message_eq_ok hgiven hmessage
  · have hrpc (rpc : Rpc) (hmem : rpc ∈ rpcs) :
        (rpc.argument.name ≠ "" ∧ rpc.argument.addition.Sound) ∧
          rpc.returns.name ≠ "" ∧ rpc.returns.addition.Sound := by
      obtain ⟨⟨_, _, hargument⟩, ⟨_, _, hreturns⟩⟩ := Mapper.exists_reduce_of_mem_rpcs hrpcs hmem
      exact ⟨sound_of_reduce_eq_ok hgiven (append_ne_empty (.inr (by decide))) hargument,
        sound_of_reduce_eq_ok hgiven (append_ne_empty (.inr (by decide))) hreturns⟩
    rcases mem_contractAdditions_iff.mp ha with ⟨rpc, hmem, rfl | rfl⟩ | rfl
    · exact (hrpc rpc hmem).1.2
    · exact (hrpc rpc hmem).2.2
    · intro method hmethod
      obtain ⟨rpc, hmem, rfl⟩ := List.mem_map.mp hmethod
      exact ⟨(hrpc rpc hmem).1.1, (hrpc rpc hmem).2.1⟩
  · cases ha

end Additions

/-- A document with compatible and sound additions is sound. -/
theorem sound_assemble (new : Document) {additions : List Addition}
    (hcompatible : Compatible additions) (hsound : ∀ a ∈ additions, a.Sound) :
    (assemble new additions).Sound where
  nodup_messages := nodup_firsts _
  nodup_services := hcompatible.nodup_services
  messages _ hmsg := hsound _ (mem_messagesOf_iff.mp (mem_of_mem_firsts hmsg))
  methods _ hsvc := hsound _ (mem_servicesOf_iff.mp hsvc)

/-! ## The documents of a package -/

/-- **The documents of a package are ready to be written.**  Where no override is without a name,
each document of a translation is sound, so it passes exactly when no message has two fields of
one name and no service two methods. -/
theorem verify_iff_of_translation {options : Options} {module : Module} {docs : Documents}
    {name : String} {doc : Document} (hgiven : NamesGiven options.overrides)
    (h : translation options module = .ok docs) (hget : docs.get? name = some doc) :
    doc.Sound ∧ (doc.verify = .ok () ↔ doc.MembersDistinct) := by
  have haccepts := (translation_eq_ok_iff.mp h).1
  have hsound : doc.Sound := by
    rw [get?_of_translation_eq_ok h hget]
    refine sound_assemble _ (haccepts.compatible name) fun a ha => ?_
    obtain ⟨d, additions, -, hadditions, hadded⟩ := haccepts.mem_addedAt_iff.mp ha
    exact sound_of_mem_additions (m := mapperFor options module) hgiven hadditions hadded
  rw [verify_eq_ok_iff]
  exact ⟨hsound, and_iff_right hsound⟩

/-! ## An example -/

/-- A package with a record that has two fields of one schema name. -/
def session : Module where
  name := "session"
  declarations := [
    ⟨"Session", "", "session.go", ⟨3, 1⟩, .record [
      ⟨some "UserID", .ofName "string", Tag.empty, "", ⟨4, 2⟩⟩,
      ⟨some "UserId", .slice (.ofName "string"), Tag.empty, "", ⟨5, 2⟩⟩]⟩]

/-- The document of the package. -/
def sessionDocument : Document :=
  { newDocument .standard session "session.proto" with
    imports := TextSet.add .empty extensionsFile
    messages := [⟨"Session", "", [
      ⟨"user_id", "", 1, .scalar "string", ⟨none, false, none⟩⟩,
      ⟨"user_id", "", 2, { FieldType.scalar "string" with repeated := true },
        ⟨some "UserId", false, none⟩⟩]⟩] }

/-- The document of a session is sound, and its two fields of one name are all that stands in the
way of writing it. -/
theorem verify_session :
    NamesGiven Options.standard.overrides ∧
      translation .standard session = .ok (.ofList [("session.proto", sessionDocument)]) ∧
      sessionDocument.Sound ∧ ¬sessionDocument.MembersDistinct ∧
      sessionDocument.verify ≠ .ok () := by
  have htranslation :
      translation .standard session = .ok (.ofList [("session.proto", sessionDocument)]) := by
    decide +kernel
  have hgiven : NamesGiven Options.standard.overrides := by decide
  have hget : (TextMap.ofList [("session.proto", sessionDocument)]).get? "session.proto" =
      some sessionDocument := rfl
  obtain ⟨hsound, hverify⟩ := verify_iff_of_translation hgiven htranslation hget
  have hdistinct : ¬sessionDocument.MembersDistinct := by decide
  exact ⟨hgiven, htranslation, hsound, hdistinct, fun hok => hdistinct (hverify.mp hok)⟩

end GoSchema.Mapping
