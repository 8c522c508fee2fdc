import GoSchema.Proofs.Mapping.Wrappers

/-!
# Reading a record back from its message

A message tells which record it was made from, as far as the schema keeps it.  The name of a schema
field is folded, and folding loses capitals; but where the name is not the folded one spelled out
again, it is kept beside the field.  So each field gives back the name that its source field goes by
(`Field.goName`), and whether the source field was embedded.

What is read back are the eligible source fields, in order (`visibleName?_eq_some_iff`): those with
an exported name of their own, and embedded ones whose type has an exported name below its pointers
and sequences.  The others leave no trace: they take no tag, and the record without them gives the
same message (`value_fields_eligible`).  The document plays no part in this.  Where it holds a
message of that name already, the fields are the same.
-/

namespace GoSchema.Schema

/-- The Go name of a field: the one that was kept, or else the schema name spelled out. -/
def Field.goName (f : Field) : String :=
  f.extensions.customName?.getD (Naming.goCase f.name)

end GoSchema.Schema

namespace GoSchema.Mapping

open Schema Go

/-! ## Eligible fields -/

/-- A source field is not passed over. -/
abbrev Eligible (f : Go.Field) : Prop := (visibleName? f).isSome

/-- The name that a source field goes by is exported. It is its own name, or that of an embedded
type below pointers, slices and arrays. -/
theorem visibleName?_eq_some_iff {f : Go.Field} {name : String} {embedded : Bool} :
    visibleName? f = some (name, embedded) ↔
      Naming.isExported name ∧
        (f.name? = some name ∧ embedded = false ∨
          f.name? = none ∧ f.type.baseName? = some name ∧ embedded = true) := by
  rw [visibleName?, Option.filter_eq_some_iff, and_comm]
  refine and_congr_right fun _ => ?_
  unfold sourceName?
  cases f.name? with
  | some own => simp [eq_comm]
  | none => simp [eq_comm]

namespace Mapper

variable {m : Mapper}

/-- A schema field gives back the name that its source field goes by. -/
theorem goName_schemaField (f : Go.Field) (tag : Nat) (name : String × Bool) :
    (m.schemaField f tag name).goName = name.1 := by
  unfold Field.goName schemaField extensionsOf
  dsimp only
  split
  case isTrue hback => exact hback
  case isFalse => rfl

/-- The names are read back in order, and with them which fields were embedded. -/
theorem map_goName_schemaFields (tag : Nat) (sources : List Go.Field) :
    (m.schemaFields tag sources).map (fun f => (f.goName, f.extensions.embed)) =
      sources.filterMap visibleName? := by
  induction sources generalizing tag with
  | nil => rfl
  | cons source rest ih =>
      cases hname : visibleName? source with
      | none => rw [schemaFields_cons_of_none hname, List.filterMap_cons_none hname, ih]
      | some name =>
          rw [schemaFields_cons_of_some hname, List.filterMap_cons_some hname, List.map_cons, ih,
            goName_schemaField]
          rfl

/-- Fields that are passed over change nothing. -/
theorem value_fields_eligible (record : String) (tag : Nat) (sources : List Go.Field) :
    (m.fields record tag (sources.filter fun f => Eligible f)).value =
      (m.fields record tag sources).value := by
  induction sources generalizing tag with
  | nil => rfl
  | cons source rest ih =>
      cases hname : visibleName? source with
      | none => rw [List.filter_cons_of_neg (by simp [hname]), value_fields_cons_of_none hname, ih]
      | some name =>
          rw [List.filter_cons_of_pos (by simp [hname]), value_fields_cons_of_some hname,
            value_fields_cons_of_some hname, ih]

end Mapper

/-! ## Messages of records -/

variable {m : Mapper} {name docs : String} {sources : List Go.Field} {doc doc' : Document}
  {held : Message}

theorem Building.yields_record_iff :
    (Building.record m name docs sources).Yields doc held doc' ↔
      ∃ message, (m.message name docs sources).value = .ok message ∧
        (Building.register message).Yields doc held doc' := by
  unfold Building.record
  rw [Building.yields_bind_iff]
  constructor
  · rintro ⟨message, doc₁, hmake, hregister⟩
    obtain ⟨hmessage, rfl⟩ := Building.yields_make_iff.mp hmake
    exact ⟨message, hmessage, hregister⟩
  · rintro ⟨message, hmessage, hregister⟩
    exact ⟨message, doc, Building.yields_make_iff.mpr ⟨hmessage, rfl⟩, hregister⟩

/-- Whether the message is new or was there already, it has the fields of the record. -/
theorem fields_of_yields_record (h : (Building.record m name docs sources).Yields doc held doc') :
    held.fields = m.schemaFields 1 sources := by
  obtain ⟨message, hmessage, hregister⟩ := Building.yields_record_iff.mp h
  obtain ⟨doc₁, hadded, -⟩ := Building.yields_register_iff.mp hregister
  rw [(message?_of_addMessage hadded).2, (Mapper.message_eq_of_ok hmessage).1]

/-- **A record is read back from its message.**  The fields give the names of the eligible source
fields in order, and which of them were embedded; they are numbered from one on and have the types
that the source types resolve to; and a record without the source fields that are not eligible gives
the same message in the same document. -/
theorem record_readBack (h : (Building.record m name docs sources).Yields doc held doc') :
    held.fields.map (fun f => (f.goName, f.extensions.embed)) = sources.filterMap visibleName? ∧
      (∀ i (hi : i < held.fields.length), held.fields[i].tag = i + 1) ∧
      held.fields.map Schema.Field.type =
        (sources.filter fun f => Eligible f).map (fun f => (m.resolve f.type).type) ∧
      (Building.record m name docs (sources.filter fun f => Eligible f)).Yields doc held doc' := by
  rw [fields_of_yields_record h]
  refine ⟨Mapper.map_goName_schemaFields 1 sources, fun i hi => ?_, ?_, ?_⟩
  · have htags := Mapper.map_tag_schemaFields (m := m) 1 sources
    have htag := congrArg (·[i]?) htags
    simpa [hi, Nat.add_comm] using htag
  · rw [Mapper.map_type_schemaFields, visibleTypes, List.map_map]
    simp only [Eligible, Bool.decide_eq_true]
    rfl
  · obtain ⟨message, hmessage, hregister⟩ := Building.yields_record_iff.mp h
    refine Building.yields_record_iff.mpr ⟨message, ?_, hregister⟩
    rw [← hmessage, Mapper.value_message, Mapper.value_message, Mapper.value_fields_eligible]

/-- A record with a name that is lost, an embedded pointer, and two fields that are passed over. -/
def auditFields : List Go.Field :=
  [plainField "Id" (.ofName "string"), ⟨none, .pointer (.ofName "Stamp"), Tag.empty, "", ⟨6, 2⟩⟩,
   plainField "note" (.ofName "string"),
   ⟨none, .map (.ofName "string") (.ofName "int"), Tag.empty, "", ⟨8, 2⟩⟩,
   plainField "OwnerIDs" (.slice (.ofName "int64"))]

/-- The record in a document without messages. -/
theorem record_readBack_audit :
    ∃ held doc', (Building.record plainMapper "Audit" "" auditFields).Yields
        (.empty "shop.proto" "shop") held doc' ∧
      held.fields.map (fun f => (f.goName, f.extensions.embed)) =
        [("Id", false), ("Stamp", true), ("OwnerIDs", false)] := by
  have hyields : (Building.record plainMapper "Audit" "" auditFields).Yields
      (.empty "shop.proto" "shop") ⟨"Audit", "", plainMapper.schemaFields 1 auditFields⟩
      ((Building.record plainMapper "Audit" "" auditFields).after (.empty "shop.proto" "shop")) := by
    unfold Building.Yields
    decide +kernel
  have hnames : auditFields.filterMap visibleName? =
      [("Id", false), ("Stamp", true), ("OwnerIDs", false)] := by
    decide +kernel
  exact ⟨_, _, hyields, (record_readBack hyields).1.trans hnames⟩

end GoSchema.Mapping
