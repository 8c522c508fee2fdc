import GoSchema.Proofs.Mapping.Translation

/-!
# What a translation warns of

Each time the mapper resolves a type, the keys that it misses on the way are reported.  This file
leaves the documents aside and follows these reports through a translation that succeeds.  They
are those of the types that its declarations consult, in order (`warnedKeys_eq_of_ok`):

* a record consults the types of its visible fields;
* for the parameters and for the results of a method, the types of the fields of the message that
  is made for them are consulted, and before that the type of a member that stands alone, in order
  to see what is to be made.

Whether a message is registered for the first time or again plays no part, and neither does the
document that it goes to.
-/

namespace GoSchema

/-- The key that an event says is missing. -/
def Event.unmappedKey? : Event → Option String
  | .unmappedType key => some key
  | _ => none

end GoSchema

namespace GoSchema.Mapping

open Schema Go

variable {α β : Type}

/-! ## Reports of a run -/

/-- The keys of types that are reported to have no counterpart. -/
def unmappedKeys (events : List Event) : List String := events.filterMap Event.unmappedKey?

theorem unmappedKeys_append (first second : List Event) :
    unmappedKeys (first ++ second) = unmappedKeys first ++ unmappedKeys second :=
  List.filterMap_append

theorem unmappedKeys_map_unmappedType (keys : List String) :
    unmappedKeys (keys.map .unmappedType) = keys := by
  rw [unmappedKeys, List.filterMap_map]
  exact List.filterMap_some

namespace Making

/-- The keys that work reports as missing. -/
def warned (x : Making α) : List String := unmappedKeys x.run.events

theorem warned_liftM (x : Logged α) : (liftM x : Making α).warned = unmappedKeys x.events := by
  show unmappedKeys (x.events ++ []) = _
  rw [List.append_nil]

/-- Work of two steps reports what its steps report, if the first one succeeds. -/
theorem warned_bind_of_ok {x : Making α} {f : α → Making β} {a : α} (h : x.value = .ok a) :
    (x >>= f).warned = x.warned ++ (f a).warned := by
  have hvalue : x.run.value = .ok a := h
  rw [warned, ExceptT.run_bind, Logged.events_bind, hvalue, unmappedKeys_append]
  rfl

theorem warned_bind_pure (x : Making α) (f : α → β) :
    (x >>= fun a => pure (f a)).warned = x.warned := by
  rw [warned, ExceptT.run_bind, Logged.events_bind, unmappedKeys_append]
  cases x.run.value <;> exact List.append_nil _

end Making

namespace Building

/-- The keys that work on a document reports as missing. -/
def warned (x : Building α) (doc : Document) : List String := unmappedKeys (x.run.run doc).events

variable {doc doc₁ : Document}

theorem warned_make (x : Making α) : (make x).warned doc = x.warned := by
  show unmappedKeys (x.run.events ++ []) = _
  rw [List.append_nil]
  rfl

theorem warned_bind_of_yields {x : Building α} {f : α → Building β} {a : α}
    (h : x.Yields doc a doc₁) : (x >>= f).warned doc = x.warned doc ++ (f a).warned doc₁ := by
  have hvalue : (x.run.run doc).value = (.ok a, doc₁) := h
  rw [warned, ExceptT.run_bind, StateT.run_bind, Logged.events_bind, hvalue, unmappedKeys_append]
  rfl

theorem warned_bind_pure (x : Building α) (f : α → β) :
    (x >>= fun a => pure (f a)).warned doc = x.warned doc := by
  rw [warned, ExceptT.run_bind, StateT.run_bind, Logged.events_bind, unmappedKeys_append]
  rcases (x.run.run doc).value with ⟨_ | a, doc₁⟩ <;> exact List.append_nil _

end Building

/-! ## Messages -/

namespace Mapper

variable {m : Mapper}

/-- The keys that are missing when some types are resolved. -/
def missingFor (m : Mapper) (types : List TypeExpr) : List String :=
  types.flatMap fun t => (m.resolve t).missing

theorem missingFor_append (first second : List TypeExpr) :
    m.missingFor (first ++ second) = m.missingFor first ++ m.missingFor second :=
  List.flatMap_append

theorem missingFor_cons (t : TypeExpr) (rest : List TypeExpr) :
    m.missingFor (t :: rest) = (m.resolve t).missing ++ m.missingFor rest := rfl

/-- The types that are consulted for some members of a method: that of a single member, and those
of the fields of the message that is made. -/
def consultedFor (m : Mapper) (members : List Param) : List TypeExpr :=
  (match members with
    | [only] => [only.type]
    | _ => []) ++ visibleTypes (m.madeFields members)

theorem consultedFor_of_ne_singleton (m : Mapper) {members : List Param}
    (h : ∀ only, members ≠ [only]) :
    m.consultedFor members = visibleTypes (m.madeFields members) := by
  unfold consultedFor
  split
  · exact absurd rfl (h _)
  · rfl

theorem warned_fieldType (t : TypeExpr) :
    (liftM (m.fieldType t) : Making FieldType).warned = (m.resolve t).missing := by
  rw [Making.warned_liftM]
  exact unmappedKeys_map_unmappedType _

section Equations

variable {record : String} {tag : Nat} {f : Go.Field} {rest : List Go.Field}

theorem warned_fields_cons_of_none (h : visibleName? f = none) :
    (m.fields record tag (f :: rest)).warned = (m.fields record tag rest).warned := by
  rw [fields]
  cases hname : sourceName? f with
  | none => rfl
  | some name =>
      have hhidden : Naming.isExported name.1 = false := by simpa [visibleName?, hname] using h
      simp only [hhidden, Bool.not_false, if_true]
      rfl

theorem warned_fields_cons_of_some {name : String × Bool} (h : visibleName? f = some name)
    (haccepted : ¬((m.resolve f.type).type.repeated && (m.resolve f.type).type.optional)) :
    (m.fields record tag (f :: rest)).warned =
      (m.resolve f.type).missing ++ (m.fields record (tag + 1) rest).warned := by
  obtain ⟨hname, hexported⟩ := Option.filter_eq_some_iff.mp h
  have htype : (m.fieldType f.type).value = (m.resolve f.type).type := rfl
  rw [fields, hname]
  simp only [hexported, Bool.not_true, Bool.false_eq_true, if_false]
  rw [Making.warned_bind_of_ok (Making.value_liftM _), warned_fieldType, htype,
    if_neg haccepted, Making.warned_bind_pure]

end Equations

/-- A message consults the types of the fields that are not passed over. -/
theorem warned_fields_of_ok {record : String} {tag : Nat} {sources : List Go.Field}
    {fs : List Schema.Field} (h : (m.fields record tag sources).value = .ok fs) :
    (m.fields record tag sources).warned = m.missingFor (visibleTypes sources) := by
  induction sources generalizing tag fs with
  | nil => rfl
  | cons source rest ih =>
      cases hname : visibleName? source with
      | none =>
          rw [value_fields_cons_of_none hname] at h
          rw [visibleTypes_cons_of_none hname, warned_fields_cons_of_none hname, ih h]
      | some name =>
          rw [value_fields_cons_of_some hname] at h
          -- a field that is refused would have ended the work
          split_ifs at h with hrefused
          obtain ⟨more, hmore, -⟩ := ok_of_map_iff.mp h
          rw [visibleTypes_cons_of_some hname, warned_fields_cons_of_some hname hrefused,
            missingFor_cons, ih hmore]

theorem warned_message_of_ok {name docs : String} {sources : List Go.Field} {message : Message}
    (h : (m.message name docs sources).value = .ok message) :
    (m.message name docs sources).warned = m.missingFor (visibleTypes sources) := by
  obtain ⟨fs, hfs, -⟩ := value_message_eq_ok_iff.mp h
  rw [Mapper.message, Making.warned_bind_pure, warned_fields_of_ok hfs]

/-- The type of a single member is consulted to see what is to be made. -/
theorem warned_reduce_singleton (wrapperName : String) (only : Param) :
    (m.reduce wrapperName [only]).warned = (m.resolve only.type).missing ++
      if (m.resolve only.type).type.isMessage then
        if (m.resolve only.type).type.repeated then
          (m.listMessage (m.resolve only.type).type.shortName only.type).warned
        else []
      else (m.message wrapperName "" (wrapperFields [] [only])).warned := by
  have htype : (m.fieldType only.type).value = (m.resolve only.type).type := rfl
  unfold reduce
  rw [Making.warned_bind_of_ok (Making.value_liftM _), warned_fieldType]
  refine congrArg (_ ++ ·) ?_
  dsimp only
  rw [htype]
  show Making.warned (if _ then _ else _) = _
  cases (m.resolve only.type).type.isMessage with
  | false => exact Making.warned_bind_pure ..
  | true =>
      cases (m.resolve only.type).type.repeated with
      | false => rfl
      | true => exact Making.warned_bind_pure ..

/-- What is reported for some members is what is missing for the types that they consult. -/
theorem warned_reduce_of_ok {wrapperName : String} {members : List Param} {r : Reduction}
    (h : (m.reduce wrapperName members).value = .ok r) :
    (m.reduce wrapperName members).warned = m.missingFor (m.consultedFor members) := by
  by_cases hsingle : ∃ only, members = [only]
  · obtain ⟨only, rfl⟩ := hsingle
    have hconsulted : m.consultedFor [only] = only.type :: visibleTypes (m.madeFields [only]) := rfl
    rw [value_reduce_singleton] at h
    rw [warned_reduce_singleton, hconsulted, missingFor_cons]
    refine congrArg (_ ++ ·) ?_
    -- a list, a message in itself, and a wrapper
    split_ifs at h with hmessage hrepeated
    · obtain ⟨message, hmade, -⟩ := ok_of_map_iff.mp h
      rw [if_pos hmessage, if_pos hrepeated, listMessage, warned_message_of_ok hmade]
      simp only [madeFields, hmessage, hrepeated, if_true]
      rfl
    · rw [if_pos hmessage, if_neg hrepeated]
      simp only [madeFields, hmessage, hrepeated, if_true, Bool.false_eq_true, if_false]
      rfl
    · obtain ⟨message, hmade, -⟩ := ok_of_map_iff.mp h
      rw [if_neg hmessage, warned_message_of_ok hmade]
      simp only [madeFields, hmessage, Bool.false_eq_true, if_false]
  · have hne : ∀ only, members ≠ [only] := fun only hsame => hsingle ⟨only, hsame⟩
    rw [value_reduce_of_ne_singleton m wrapperName hne] at h
    obtain ⟨message, hmade, -⟩ := ok_of_map_iff.mp h
    rw [consultedFor_of_ne_singleton m hne, madeFields_of_ne_singleton m hne,
      ← warned_message_of_ok hmade]
    unfold reduce
    split
    · exact absurd rfl (hne _)
    · exact Making.warned_bind_pure ..

end Mapper

/-! ## Declarations -/

namespace Mapper

/-- The types that are resolved for a declaration. -/
def consulted (m : Mapper) (d : Declaration) : List TypeExpr :=
  match d.kind with
  | .record fields => visibleTypes fields
  | .contract members => (memberLists members).flatMap m.consultedFor
  | .defined _ => []

end Mapper

namespace Building

variable {m : Mapper} {doc doc' : Document}

/-- That a message is there already is reported, but not as a missing key. -/
theorem warned_register (message : Message) : (register message).warned doc = [] := by
  unfold register
  rw [warned_bind_of_yields (yields_get_iff.mpr ⟨rfl, rfl⟩)]
  show [] ++ Building.warned (if _ then _ else _) doc = []
  cases (doc.message? message.name).isSome <;> cases doc.addMessage message <;> rfl

theorem warned_settle (r : Reduction) : (settle r).warned doc = [] := by
  cases r with
  | reuse type => rfl
  | wrap message => exact (warned_bind_pure ..).trans (warned_register message)

theorem warned_method_of_yields {stem name docs : String} {params results : List Param}
    {method : Schema.Method}
    (h : (Building.method m stem name docs params results).Yields doc method doc') :
    (Building.method m stem name docs params results).warned doc =
      m.missingFor (m.consultedFor (withoutContext params)) ++
        m.missingFor (m.consultedFor (withoutError results)) := by
  unfold Building.method at h ⊢
  obtain ⟨argument, doc₁, hargument, h⟩ := yields_bind_iff.mp h
  obtain ⟨_, doc₂, hsettled, h⟩ := yields_bind_iff.mp h
  obtain ⟨returns, doc₃, hreturns, -⟩ := yields_bind_iff.mp h
  -- settling reports nothing, so the two reductions are all there is
  rw [warned_bind_of_yields hargument, warned_bind_of_yields hsettled,
    warned_bind_of_yields hreturns, warned_bind_pure, warned_settle, warned_settle, warned_make,
    warned_make, Mapper.warned_reduce_of_ok (yields_make_iff.mp hargument).1,
    Mapper.warned_reduce_of_ok (yields_make_iff.mp hreturns).1, List.nil_append, List.append_nil]

theorem warned_methods_of_yields {contract stem : String} {members : List Member}
    {methods : List Schema.Method}
    (h : (Building.methods m contract stem members).Yields doc methods doc') :
    (Building.methods m contract stem members).warned doc =
      m.missingFor ((memberLists members).flatMap m.consultedFor) := by
  induction members generalizing doc doc' methods with
  | nil => rfl
  | cons member rest ih =>
      cases member with
      | embedded type? docs pos =>
          rw [Building.methods] at h ⊢
          obtain ⟨_, doc₁, hreport, hrest⟩ := yields_bind_iff.mp h
          rw [warned_bind_of_yields hreport, ih hrest]
          rfl
      | method name params results docs pos =>
          rw [Building.methods] at h ⊢
          obtain ⟨method, doc₁, hmethod, h⟩ := yields_bind_iff.mp h
          obtain ⟨more, doc₂, hrest, -⟩ := yields_bind_iff.mp h
          have hlists : memberLists (.method name params results docs pos :: rest) =
              withoutContext params :: withoutError results :: memberLists rest := rfl
          rw [warned_bind_of_yields hmethod, warned_method_of_yields hmethod, warned_bind_pure,
            ih hrest, hlists, List.flatMap_cons, List.flatMap_cons, Mapper.missingFor_append,
            Mapper.missingFor_append, List.append_assoc]

theorem warned_record_of_yields {name docs : String} {fields : List Go.Field} {held : Message}
    (h : (record m name docs fields).Yields doc held doc') :
    (record m name docs fields).warned doc = m.missingFor (visibleTypes fields) := by
  unfold record at h ⊢
  obtain ⟨message, doc₁, hmessage, -⟩ := yields_bind_iff.mp h
  rw [warned_bind_of_yields hmessage, warned_register, warned_make, List.append_nil]
  exact Mapper.warned_message_of_ok (yields_make_iff.mp hmessage).1

theorem warned_contract_of_yields {name docs : String} {members : List Member} {svc : Service}
    (h : (contract m name docs members).Yields doc svc doc') :
    (contract m name docs members).warned doc =
      m.missingFor ((memberLists members).flatMap m.consultedFor) := by
  unfold contract at h ⊢
  obtain ⟨methods, doc₁, hmethods, -⟩ := yields_bind_iff.mp h
  rw [warned_bind_of_yields hmethods, warned_methods_of_yields hmethods]
  -- adding the service reports nothing
  refine (congrArg (_ ++ ·) ?_).trans (List.append_nil _)
  rw [warned_bind_of_yields (yields_get_iff.mpr ⟨rfl, rfl⟩)]
  cases doc₁.addService _ <;> rfl

end Building

/-- A declaration that is built reports what is missing for the types that it consults. -/
theorem warned_addDeclaration_of_yields {m : Mapper} {d : Declaration} {doc doc' : Document}
    (h : (addDeclaration m d).Yields doc () doc') :
    (addDeclaration m d).warned doc = m.missingFor (m.consulted d) := by
  unfold addDeclaration at h ⊢
  unfold Mapper.consulted
  cases hkind : d.kind with
  | record fields =>
      rw [hkind] at h
      obtain ⟨held, doc₁, hrecord, -⟩ := Building.yields_bind_iff.mp h
      exact (Building.warned_bind_pure ..).trans (Building.warned_record_of_yields hrecord)
  | contract members =>
      rw [hkind] at h
      obtain ⟨service, doc₁, hcontract, -⟩ := Building.yields_bind_iff.mp h
      exact (Building.warned_bind_pure ..).trans (Building.warned_contract_of_yields hcontract)
  | defined type => rfl

/-! ## A package -/

/-- The keys that the translation of a package reports as missing. -/
def warnedKeys (options : Options) (module : Module) : List String :=
  (documents options module).warned

section Run

variable {options : Options} {module : Module} {m : Mapper} {placed : Placement}
  {docs docs' : Documents}

theorem warned_addPlaced_of_ok {p : Declaration × String}
    (h : (addPlaced options module m docs p).value = .ok docs') :
    (addPlaced options module m docs p).warned = m.missingFor (m.consulted p.1) := by
  obtain ⟨doc', hyields, -⟩ := value_addPlaced_eq_ok_iff.mp h
  rw [← warned_addDeclaration_of_yields hyields]
  have hrun : ((addDeclaration m p.1).run.run
      ((docs.get? p.2).getD (newDocument options module p.2))).value = (.ok (), doc') := hyields
  unfold addPlaced
  rw [Making.warned_bind_of_ok (Making.value_liftM _), Making.warned_liftM, hrun]
  exact List.append_nil _

theorem warned_foldlM_addPlaced_of_ok
    (h : (placed.foldlM (addPlaced options module m) docs).value = .ok docs') :
    (placed.foldlM (addPlaced options module m) docs).warned =
      m.missingFor (placed.flatMap fun p => m.consulted p.1) := by
  induction placed generalizing docs with
  | nil => rfl
  | cons p rest ih =>
      rw [List.foldlM_cons] at h ⊢
      rw [Making.value_bind] at h
      obtain ⟨docs₁, hp, hrest⟩ := ok_of_bind_iff.mp h
      rw [Making.warned_bind_of_ok hp, warned_addPlaced_of_ok hp, ih hrest, List.flatMap_cons,
        Mapper.missingFor_append]

/-- **What a translation warns of.**  A translation that succeeds reports what is missing for the
types that the selected declarations consult, in order. -/
theorem warnedKeys_eq_of_ok (h : translation options module = .ok docs) :
    warnedKeys options module = (mapperFor options module).missingFor
      ((select options.filter module.declarations).flatMap
        (mapperFor options module).consulted) := by
  unfold warnedKeys documents
  unfold translation documents at h
  rw [Making.value_bind] at h
  obtain ⟨_, hreport, hrun⟩ := ok_of_bind_iff.mp h
  rw [Making.warned_bind_of_ok hreport, warned_foldlM_addPlaced_of_ok hrun, placement,
    List.flatMap_map]
  rfl

end Run

end GoSchema.Mapping
