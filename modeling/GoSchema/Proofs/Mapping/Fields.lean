import GoSchema.Mapping.Service
import GoSchema.Proofs.Mapping.Outcome
import GoSchema.Proofs.Mapping.Resolution

/-!
# Messages, one source field at a time

What a list of source fields comes to satisfies two equations: a field that is passed over changes
nothing, and any other field puts its schema field in front of what the rest comes to, unless it
is refused.  So the fields of a message are `schemaFields`, none of which is refused
(`fields_eq_of_ok`): the visible fields in order, numbered one after the other, each with the
resolution of its source type.

The messages of records, wrappers and lists are all made of such fields.  For the members of a
method, `reused?` and `madeFields` say which of these it is (`value_reduce_eq_ok_cases`).
-/

namespace GoSchema.Mapping

open Schema Go

/-- The name that a source field goes by, and whether it is embedded. A field that is passed over
has none. -/
def visibleName? (f : Go.Field) : Option (String × Bool) :=
  (sourceName? f).filter fun name => Naming.isExported name.1

/-- The types of the source fields that are not passed over. -/
def visibleTypes (sources : List Go.Field) : List TypeExpr :=
  (sources.filter fun f => (visibleName? f).isSome).map Go.Field.type

theorem visibleTypes_cons_of_none {f : Go.Field} {rest : List Go.Field}
    (h : visibleName? f = none) : visibleTypes (f :: rest) = visibleTypes rest := by
  rw [visibleTypes, List.filter_cons_of_neg (by simp [h]), visibleTypes]

theorem visibleTypes_cons_of_some {f : Go.Field} {rest : List Go.Field} {name : String × Bool}
    (h : visibleName? f = some name) : visibleTypes (f :: rest) = f.type :: visibleTypes rest := by
  rw [visibleTypes, List.filter_cons_of_pos (by simp [h]), List.map_cons, visibleTypes]

namespace Mapper

variable {m m₁ m₂ : Mapper}

/-- The schema field of a source field that goes by a name. -/
def schemaField (m : Mapper) (f : Go.Field) (tag : Nat) (name : String × Bool) : Schema.Field :=
  ⟨Naming.snakeCase name.1, f.docs, tag, (m.resolve f.type).type, extensionsOf f name.1 name.2⟩

/-! ## The equations -/

section Equations

variable {record : String} {tag : Nat} {f : Go.Field} {rest : List Go.Field}

theorem value_fields_cons_of_none (h : visibleName? f = none) :
    (m.fields record tag (f :: rest)).value = (m.fields record tag rest).value := by
  rw [fields]
  cases hname : sourceName? f with
  | none => rfl
  | some name =>
      have hhidden : Naming.isExported name.1 = false := by simpa [visibleName?, hname] using h
      simp only [hhidden, Bool.not_false, if_true]
      rfl

theorem value_fields_cons_of_some {name : String × Bool} (h : visibleName? f = some name) :
    (m.fields record tag (f :: rest)).value =
      if (m.resolve f.type).type.repeated && (m.resolve f.type).type.optional then
        .error ⟨record, .optionalRepeated (Naming.snakeCase name.1) record⟩
      else (m.fields record (tag + 1) rest).value.map (m.schemaField f tag name :: ·) := by
  obtain ⟨hname, hexported⟩ := Option.filter_eq_some_iff.mp h
  rw [fields, hname]
  simp only [hexported, Bool.not_true, Bool.false_eq_true, if_false, Making.value_bind,
    Making.value_liftM]
  show (if (m.resolve f.type).type.repeated && (m.resolve f.type).type.optional then
      (throw _ : Making (List Schema.Field))
    else _).value = _
  split
  · rfl
  · exact Making.value_bind_pure ..

end Equations

/-- What changes each schema field, but neither what is passed over nor what is refused, changes what
a list of source fields comes to field by field. -/
theorem value_fields_map (source : Go.Field → Go.Field) (target : Schema.Field → Schema.Field)
    (hname : ∀ f, visibleName? (source f) = visibleName? f)
    (hfield : ∀ f tag name, m₂.schemaField (source f) tag name = target (m₁.schemaField f tag name))
    (hrepeated : ∀ f, (target f).type.repeated = f.type.repeated)
    (hoptional : ∀ f, (target f).type.optional = f.type.optional)
    (record : String) (tag : Nat) (sources : List Go.Field) :
    (m₂.fields record tag (sources.map source)).value =
      (m₁.fields record tag sources).value.map (List.map target) := by
  induction sources generalizing tag with
  | nil => rfl
  | cons f rest ih =>
      rw [List.map_cons]
      cases h : visibleName? f with
      | none =>
          rw [value_fields_cons_of_none h, value_fields_cons_of_none ((hname f).trans h), ih]
      | some name =>
          have htype : (m₂.resolve (source f).type).type =
              (target (m₁.schemaField f tag name)).type :=
            congrArg Schema.Field.type (hfield f tag name)
          rw [value_fields_cons_of_some h, value_fields_cons_of_some ((hname f).trans h), ih,
            hfield, htype, hrepeated, hoptional]
          show (if (m₁.resolve f.type).type.repeated && (m₁.resolve f.type).type.optional then _
            else _) = _
          split_ifs
          · rfl
          · cases (m₁.fields record (tag + 1) rest).value <;> rfl

theorem value_message (m : Mapper) (name docs : String) (sources : List Go.Field) :
    (m.message name docs sources).value =
      (m.fields name 1 sources).value.map fun fs => ⟨name, docs, fs⟩ :=
  Making.value_bind_pure ..

theorem value_message_eq_ok_iff {name docs : String} {sources : List Go.Field} {message : Message} :
    (m.message name docs sources).value = .ok message ↔
      ∃ fs, (m.fields name 1 sources).value = .ok fs ∧ message = ⟨name, docs, fs⟩ := by
  rw [value_message, ok_of_map_iff]
  simp only [eq_comm]

/-! ## The fields of a message -/

/-- The schema fields of the source fields that are not passed over, numbered from a given tag. -/
def schemaFields (m : Mapper) (tag : Nat) : List Go.Field → List Schema.Field
  | [] => []
  | f :: rest =>
    match visibleName? f with
    | none => m.schemaFields tag rest
    | some name => m.schemaField f tag name :: m.schemaFields (tag + 1) rest

section SchemaFields

variable {tag : Nat} {f : Go.Field} {rest : List Go.Field}

theorem schemaFields_cons_of_none (h : visibleName? f = none) :
    m.schemaFields tag (f :: rest) = m.schemaFields tag rest := by
  rw [schemaFields, h]

theorem schemaFields_cons_of_some {name : String × Bool} (h : visibleName? f = some name) :
    m.schemaFields tag (f :: rest) =
      m.schemaField f tag name :: m.schemaFields (tag + 1) rest := by
  rw [schemaFields, h]

/-- The fields are numbered one after the other. -/
theorem map_tag_schemaFields (tag : Nat) (sources : List Go.Field) :
    (m.schemaFields tag sources).map Schema.Field.tag =
      List.range' tag (m.schemaFields tag sources).length := by
  induction sources generalizing tag with
  | nil => rfl
  | cons source rest ih =>
      cases hname : visibleName? source with
      | none => rw [schemaFields_cons_of_none hname, ih]
      | some name =>
          rw [schemaFields_cons_of_some hname, List.map_cons, ih, List.length_cons,
            List.range'_succ]
          rfl

/-- The fields have the folded names of the source fields that are not passed over. -/
theorem map_name_schemaFields (tag : Nat) (sources : List Go.Field) :
    (m.schemaFields tag sources).map Schema.Field.name =
      ((sources.filterMap visibleName?).map Prod.fst).map Naming.snakeCase := by
  induction sources generalizing tag with
  | nil => rfl
  | cons source rest ih =>
      cases hname : visibleName? source with
      | none => rw [schemaFields_cons_of_none hname, List.filterMap_cons_none hname, ih]
      | some name =>
          rw [schemaFields_cons_of_some hname, List.filterMap_cons_some hname, List.map_cons, ih]
          rfl

/-- The fields have the types that the visible source types resolve to. -/
theorem map_type_schemaFields (tag : Nat) (sources : List Go.Field) :
    (m.schemaFields tag sources).map Schema.Field.type =
      (visibleTypes sources).map fun t => (m.resolve t).type := by
  induction sources generalizing tag with
  | nil => rfl
  | cons source rest ih =>
      cases hname : visibleName? source with
      | none => rw [schemaFields_cons_of_none hname, visibleTypes_cons_of_none hname, ih]
      | some name =>
          rw [schemaFields_cons_of_some hname, visibleTypes_cons_of_some hname, List.map_cons,
            List.map_cons, ih]
          rfl

end SchemaFields

/-- Source fields that are not refused become their schema fields. -/
theorem fields_eq_of_ok {record : String} {tag : Nat} {sources : List Go.Field}
    {fs : List Schema.Field} (h : (m.fields record tag sources).value = .ok fs) :
    fs = m.schemaFields tag sources ∧ ∀ f ∈ fs, ¬(f.type.repeated ∧ f.type.optional) := by
  induction sources generalizing tag fs with
  | nil =>
      cases h
      exact ⟨rfl, by simp⟩
  | cons source rest ih =>
      cases hname : visibleName? source with
      | none =>
          rw [value_fields_cons_of_none hname] at h
          rw [schemaFields_cons_of_none hname]
          exact ih h
      | some name =>
          rw [value_fields_cons_of_some hname] at h
          -- a field that is refused leaves no fields at all
          split_ifs at h with hrefused
          obtain ⟨more, hmore, rfl⟩ := ok_of_map_iff.mp h
          obtain ⟨rfl, hlabels⟩ := ih hmore
          refine ⟨(schemaFields_cons_of_some hname).symm, fun f hf => ?_⟩
          rcases List.mem_cons.mp hf with rfl | hf
          · exact fun hboth => hrefused (Bool.and_eq_true_iff.mpr hboth)
          · exact hlabels f hf

theorem message_eq_of_ok {name docs : String} {sources : List Go.Field} {message : Message}
    (h : (m.message name docs sources).value = .ok message) :
    message = ⟨name, docs, m.schemaFields 1 sources⟩ ∧
      ∀ f ∈ message.fields, ¬(f.type.repeated ∧ f.type.optional) := by
  obtain ⟨fs, hfs, rfl⟩ := value_message_eq_ok_iff.mp h
  obtain ⟨rfl, hlabels⟩ := fields_eq_of_ok hfs
  exact ⟨rfl, hlabels⟩

/-- Nothing is refused where no type is both repeated and optional. -/
theorem value_message_eq_ok
    (hlabels : ∀ t, ¬((m.resolve t).type.repeated ∧ (m.resolve t).type.optional))
    (name docs : String) (sources : List Go.Field) :
    (m.message name docs sources).value = .ok ⟨name, docs, m.schemaFields 1 sources⟩ := by
  have hfields (record : String) (tag : Nat) :
      (m.fields record tag sources).value = .ok (m.schemaFields tag sources) := by
    induction sources generalizing tag with
    | nil => rfl
    | cons source rest ih =>
        cases hname : visibleName? source with
        | none => rw [value_fields_cons_of_none hname, schemaFields_cons_of_none hname, ih]
        | some visible =>
            have hlabel : ¬((m.resolve source.type).type.repeated &&
                (m.resolve source.type).type.optional) :=
              fun hboth => hlabels source.type (Bool.and_eq_true_iff.mp hboth)
            rw [value_fields_cons_of_some hname, if_neg hlabel, schemaFields_cons_of_some hname, ih]
            rfl
  exact value_message_eq_ok_iff.mpr ⟨_, hfields name 1, rfl⟩

/-! ## Members of a method -/

/-- The field of the message that holds a list of a member's messages. -/
def listField (m : Mapper) (only : Param) : Go.Field :=
  plainField
    (Naming.exportedName
      (Naming.plural (Naming.snakeCase (m.resolve only.type).type.shortName)))
    (elementsByValue only.type)

/-- The message that stands for some members by itself, if there is one. -/
def reused? (m : Mapper) : List Param → Option FieldType
  | [only] =>
    if (m.resolve only.type).type.isMessage && !(m.resolve only.type).type.repeated then
      some (m.resolve only.type).type
    else none
  | _ => none

/-- The name of the message that is made for some members, where a wrapper takes the given name. -/
def madeName (m : Mapper) (wrapperName : String) : List Param → String
  | [only] =>
    if (m.resolve only.type).type.isMessage && (m.resolve only.type).type.repeated then
      (m.resolve only.type).type.shortName ++ "List"
    else wrapperName
  | _ => wrapperName

/-- The source fields of the message that is made for some members. -/
def madeFields (m : Mapper) : List Param → List Go.Field
  | [only] =>
    if (m.resolve only.type).type.isMessage then
      if (m.resolve only.type).type.repeated then [m.listField only] else []
    else wrapperFields [] [only]
  | members => wrapperFields [] members

theorem madeFields_of_ne_singleton (m : Mapper) {members : List Param}
    (h : ∀ only, members ≠ [only]) : m.madeFields members = wrapperFields [] members := by
  unfold madeFields
  split
  · exact absurd rfl (h _)
  · rfl

theorem reused?_of_ne_singleton (m : Mapper) {members : List Param}
    (h : ∀ only, members ≠ [only]) : m.reused? members = none := by
  unfold reused?
  split
  · exact absurd rfl (h _)
  · rfl

theorem madeName_of_ne_singleton (m : Mapper) (wrapperName : String) {members : List Param}
    (h : ∀ only, members ≠ [only]) : m.madeName wrapperName members = wrapperName := by
  unfold madeName
  split
  · exact absurd rfl (h _)
  · rfl

/-- A single member is a message in itself, a list of messages, or neither. -/
theorem value_reduce_singleton (m : Mapper) (wrapperName : String) (only : Param) :
    (m.reduce wrapperName [only]).value =
      if (m.resolve only.type).type.isMessage then
        if (m.resolve only.type).type.repeated then
          (m.listMessage (m.resolve only.type).type.shortName only.type).value.map .wrap
        else .ok (.reuse (m.resolve only.type).type)
      else (m.message wrapperName "" (wrapperFields [] [only])).value.map .wrap := by
  have htype : (m.fieldType only.type).value = (m.resolve only.type).type := rfl
  unfold reduce
  simp only [Making.value_bind, Making.value_liftM, htype]
  show Making.value (if _ then _ else _) = _
  cases (m.resolve only.type).type.isMessage with
  | false => exact Making.value_bind_pure ..
  | true =>
      cases (m.resolve only.type).type.repeated with
      | false => rfl
      | true => exact Making.value_bind_pure ..

theorem value_reduce_of_ne_singleton (m : Mapper) (wrapperName : String) {members : List Param}
    (h : ∀ only, members ≠ [only]) :
    (m.reduce wrapperName members).value =
      (m.message wrapperName "" (wrapperFields [] members)).value.map .wrap := by
  unfold reduce
  split
  · exact absurd rfl (h _)
  · exact Making.value_bind_pure ..

/-- What stands for some members is a message that their type resolves to, or one that is made. -/
theorem value_reduce_eq_ok_cases {wrapperName : String} {members : List Param} {r : Reduction}
    (h : (m.reduce wrapperName members).value = .ok r) :
    (∃ type, m.reused? members = some type ∧ m.madeFields members = [] ∧ r = .reuse type) ∨
    ∃ message, m.reused? members = none ∧
      (m.message (m.madeName wrapperName members) "" (m.madeFields members)).value =
        .ok message ∧ r = .wrap message := by
  by_cases hsingle : ∃ only, members = [only]
  · obtain ⟨only, rfl⟩ := hsingle
    rw [value_reduce_singleton] at h
    -- a list, a message in itself, and a wrapper
    split_ifs at h with hmessage hrepeated
    · obtain ⟨message, hmade, rfl⟩ := ok_of_map_iff.mp h
      have hname : m.madeName wrapperName [only] =
          (m.resolve only.type).type.shortName ++ "List" := by
        simp [madeName, hmessage, hrepeated]
      have hfields : m.madeFields [only] = [m.listField only] := by
        simp [madeFields, hmessage, hrepeated]
      rw [hname, hfields]
      exact Or.inr ⟨message, by simp [reused?, hrepeated], hmade, rfl⟩
    · cases h
      exact Or.inl ⟨_, by simp [reused?, hmessage, hrepeated],
        by simp [madeFields, hmessage, hrepeated], rfl⟩
    · obtain ⟨message, hmade, rfl⟩ := ok_of_map_iff.mp h
      have hname : m.madeName wrapperName [only] = wrapperName := by simp [madeName, hmessage]
      have hfields : m.madeFields [only] = wrapperFields [] [only] := by
        simp [madeFields, hmessage]
      rw [hname, hfields]
      exact Or.inr ⟨message, by simp [reused?, hmessage], hmade, rfl⟩
  · have hne : ∀ only, members ≠ [only] := fun only hsame => hsingle ⟨only, hsame⟩
    rw [value_reduce_of_ne_singleton m wrapperName hne] at h
    obtain ⟨message, hmade, rfl⟩ := ok_of_map_iff.mp h
    refine Or.inr ⟨message, reused?_of_ne_singleton m hne, ?_, rfl⟩
    rw [madeFields_of_ne_singleton m hne, madeName_of_ne_singleton m wrapperName hne]
    exact hmade

/-- What stands for some members, unless it is refused. -/
def reduced (m : Mapper) (wrapperName : String) (members : List Param) : Reduction :=
  match m.reused? members with
  | some type => .reuse type
  | none => .wrap ⟨m.madeName wrapperName members, "", m.schemaFields 1 (m.madeFields members)⟩

/-- A list of messages is reduced to a message of its own. -/
theorem reduced_of_list {only : Param} (hmessage : (m.resolve only.type).type.isMessage)
    (hrepeated : (m.resolve only.type).type.repeated) (wrapperName : String) :
    m.reduced wrapperName [only] =
      .wrap ⟨(m.resolve only.type).type.shortName ++ "List", "",
        m.schemaFields 1 [m.listField only]⟩ := by
  simp [reduced, reused?, madeName, madeFields, hmessage, hrepeated]

/-- Some members are a message in themselves, a list of messages, or they have a wrapper. -/
theorem reduced_cases (m : Mapper) (wrapperName : String) (members : List Param) :
    (∃ type, m.reduced wrapperName members = .reuse type) ∨
    (∃ only, members = [only] ∧ (m.resolve only.type).type.isMessage ∧
      (m.resolve only.type).type.repeated) ∨
    m.reduced wrapperName members =
      .wrap ⟨wrapperName, "", m.schemaFields 1 (wrapperFields [] members)⟩ := by
  by_cases hsingle : ∃ only, members = [only]
  · obtain ⟨only, rfl⟩ := hsingle
    by_cases hmessage : (m.resolve only.type).type.isMessage
    · by_cases hrepeated : (m.resolve only.type).type.repeated
      · exact .inr (.inl ⟨only, rfl, hmessage, hrepeated⟩)
      · exact .inl ⟨(m.resolve only.type).type, by simp [reduced, reused?, hmessage, hrepeated]⟩
    · exact .inr (.inr (by simp [reduced, reused?, madeName, madeFields, hmessage]))
  · have hne : ∀ only, members ≠ [only] := fun only hsame => hsingle ⟨only, hsame⟩
    rw [reduced, reused?_of_ne_singleton m hne, madeName_of_ne_singleton m wrapperName hne,
      madeFields_of_ne_singleton m hne]
    exact .inr (.inr rfl)

theorem eq_reduced_of_ok {wrapperName : String} {members : List Param} {r : Reduction}
    (h : (m.reduce wrapperName members).value = .ok r) : r = m.reduced wrapperName members := by
  rcases value_reduce_eq_ok_cases h with ⟨type, hreused, -, rfl⟩ | ⟨message, hreused, hmade, rfl⟩
  · rw [reduced, hreused]
  · obtain ⟨rfl, -⟩ := message_eq_of_ok hmade
    rw [reduced, hreused]

theorem value_reduce_eq_ok
    (hlabels : ∀ t, ¬((m.resolve t).type.repeated ∧ (m.resolve t).type.optional))
    (wrapperName : String) (members : List Param) :
    (m.reduce wrapperName members).value = .ok (m.reduced wrapperName members) := by
  have hmessage := value_message_eq_ok hlabels
  suffices hok : ∃ r, (m.reduce wrapperName members).value = .ok r by
    obtain ⟨r, hr⟩ := hok
    rw [hr, eq_reduced_of_ok hr]
  by_cases hsingle : ∃ only, members = [only]
  · obtain ⟨only, rfl⟩ := hsingle
    rw [value_reduce_singleton]
    split_ifs
    · exact ⟨_, congrArg (Except.map _) (hmessage ..)⟩
    · exact ⟨_, rfl⟩
    · exact ⟨_, congrArg (Except.map _) (hmessage ..)⟩
  · rw [value_reduce_of_ne_singleton m wrapperName fun only hsame => hsingle ⟨only, hsame⟩]
    exact ⟨_, congrArg (Except.map _) (hmessage ..)⟩

/-- A message that is reused is what some type resolves to. -/
theorem exists_resolve_of_reused {members : List Param} {type : FieldType}
    (h : m.reused? members = some type) : type.isMessage ∧ ∃ t, type = (m.resolve t).type := by
  unfold reused? at h
  split at h
  · split_ifs at h with hmessage
    cases h
    exact ⟨by simp_all, _, rfl⟩
  · cases h

/-- The fields of a message have the types that the visible source types resolve to. -/
theorem exists_field_of_message_iff {name docs : String} {sources : List Go.Field}
    {message : Message} (h : (m.message name docs sources).value = .ok message)
    (P : FieldType → Prop) :
    (∃ f ∈ message.fields, P f.type) ↔ ∃ t ∈ visibleTypes sources, P (m.resolve t).type := by
  obtain ⟨rfl, -⟩ := message_eq_of_ok h
  have htypes := map_type_schemaFields (m := m) 1 sources
  constructor
  · rintro ⟨f, hf, hholds⟩
    have hmem : f.type ∈ (m.schemaFields 1 sources).map Schema.Field.type := List.mem_map_of_mem hf
    rw [htypes] at hmem
    obtain ⟨t, ht, heq⟩ := List.mem_map.mp hmem
    exact ⟨t, ht, heq ▸ hholds⟩
  · rintro ⟨t, ht, hholds⟩
    have hmem : (m.resolve t).type ∈ (visibleTypes sources).map fun t => (m.resolve t).type :=
      List.mem_map_of_mem ht
    rw [← htypes] at hmem
    obtain ⟨f, hf, heq⟩ := List.mem_map.mp hmem
    exact ⟨f, hf, heq ▸ hholds⟩

/-- Each field of a message has the type that a source type resolves to. -/
theorem exists_resolve_of_mem_message {name docs : String} {sources : List Go.Field}
    {message : Message} (h : (m.message name docs sources).value = .ok message)
    {f : Schema.Field} (hf : f ∈ message.fields) : ∃ t, f.type = (m.resolve t).type := by
  obtain ⟨t, -, heq⟩ := (exists_field_of_message_iff h (f.type = ·)).mp ⟨f, hf, rfl⟩
  exact ⟨t, heq⟩

/-! ## Mappers that resolve alike -/

section Congr

variable (h : ∀ t, m₁.resolve t = m₂.resolve t)
include h

theorem fieldType_congr (t : TypeExpr) : m₁.fieldType t = m₂.fieldType t := by
  rw [fieldType, fieldType, h]

theorem fields_congr (record : String) (tag : Nat) (sources : List Go.Field) :
    m₁.fields record tag sources = m₂.fields record tag sources := by
  induction sources generalizing tag with
  | nil => rfl
  | cons source rest ih => simp only [fields, ih, fieldType_congr h]

theorem message_congr (name docs : String) (sources : List Go.Field) :
    m₁.message name docs sources = m₂.message name docs sources := by
  rw [message, message, fields_congr h]

theorem reduce_congr (wrapperName : String) (members : List Param) :
    m₁.reduce wrapperName members = m₂.reduce wrapperName members := by
  simp only [reduce, listMessage, message_congr h, fieldType_congr h]

end Congr

end Mapper

end GoSchema.Mapping
