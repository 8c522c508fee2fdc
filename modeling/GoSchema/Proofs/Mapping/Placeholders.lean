import GoSchema.Proofs.Mapping.Content
import GoSchema.Proofs.Mapping.Reports

/-!
# Placeholders and warnings

A type that cannot be mapped becomes a placeholder named after its key, and the key is reported.
This file compares the two.  Each placeholder is announced by a report of its key, but not the
other way round: `mem_warnedKeys_iff` says that a key is reported exactly when it is that of a
placeholder, or is overlooked in one of two ways.

* The schema language has no sequences of sequences.  The elements of such a type are resolved
  all the same, and given up only then for what the overrides say of the whole.  What is missing
  for the elements has been reported by that time (`Mapper.GivenUp`).
* The type of a member that stands alone in a method is resolved to see what is to be made of it.
  If a wrapper is made, and the name of the member cannot be exported, the wrapper has no field for
  it (`hiddenMember`).

For a reported key of the first kind, an override of the key changes nothing about the type, and
an override of the type itself leaves the report as it is (`warnedKeys_grid`).
-/

namespace GoSchema.Go.TypeExpr

/-- The element type of a slice or an array. -/
def element? : TypeExpr → Option TypeExpr
  | slice element | array _ element => some element
  | _ => none

end GoSchema.Go.TypeExpr

namespace GoSchema.Mapping

open Schema Go

/-! ## The statement -/

namespace Mapper

/-- A name has no field type of its own and is defined over a type. -/
def DefinedOver (m : Mapper) (name : String) (underlying : TypeExpr) : Prop :=
  (primitive? name).or (m.overrides.get? (m.key (.ofName name))) = none ∧
    (m.module.lookup? name).map Declaration.kind = some (.defined underlying)

/-- On the way to the field type of a type, while so many definitions are followed, the elements of a
sequence of sequences are given up that are placeholders for a key. -/
inductive GivenUp (m : Mapper) : Nat → TypeExpr → String → Prop
  | nested {definitions : Nat} {t element : TypeExpr} {key : String}
      (helement : t.element? = some element)
      (hrepeated : (m.resolveWithin definitions element).type.repeated)
      (hname : (m.resolveWithin definitions element).type.name = unresolvedMark ++ key) :
      GivenUp m definitions t key
  | element {definitions : Nat} {t element : TypeExpr} {key : String}
      (helement : t.element? = some element) (h : GivenUp m definitions element key) :
      GivenUp m definitions t key
  | target {definitions : Nat} {target : TypeExpr} {key : String}
      (h : GivenUp m definitions target key) : GivenUp m definitions (.pointer target) key
  | definition {definitions : Nat} {name : String} {underlying : TypeExpr} {key : String}
      (hdefined : m.DefinedOver name underlying) (h : GivenUp m definitions underlying key) :
      GivenUp m (definitions + 1) (.named none name) key

end Mapper

/-- The type of a member that stands alone and would have no field in a wrapper. -/
def hiddenMember : List Param → List TypeExpr
  | [only] => if visibleTypes (wrapperFields [] [only]) = [] then [only.type] else []
  | _ => []

/-- The types of members that would have no field, in a declaration. -/
def hiddenTypes (d : Declaration) : List TypeExpr :=
  match d.kind with
  | .contract members => (memberLists members).flatMap hiddenMember
  | _ => []

/-- A field of some document is a placeholder for a key. -/
def HasPlaceholder (docs : Documents) (key : String) : Prop :=
  ∃ msg ∈ docs.messages, ∃ f ∈ msg.fields, f.type.name = unresolvedMark ++ key

instance (docs : Documents) (key : String) : Decidable (HasPlaceholder docs key) :=
  inferInstanceAs (Decidable (∃ msg ∈ docs.messages, ∃ f ∈ msg.fields,
    f.type.name = unresolvedMark ++ key))

/-- A key is missing for a type that is consulted, and leaves no mark there. -/
def Overlooked (options : Options) (module : Module) (key : String) : Prop :=
  ∃ d ∈ select options.filter module.declarations,
    (∃ t ∈ (mapperFor options module).consulted d,
      (mapperFor options module).GivenUp maxDefinitions t key) ∨
    ∃ t ∈ hiddenTypes d,
      ((mapperFor options module).resolve t).type.name = unresolvedMark ++ key

/-! ## Marked names -/

theorem isPlaceholder_iff {type : FieldType} :
    Resolution.isPlaceholder type ↔ ∃ key, type.name = unresolvedMark ++ key := by
  rw [Resolution.isPlaceholder, List.isPrefixOf_iff_prefix]
  constructor
  · rintro ⟨rest, hrest⟩
    refine ⟨String.ofList rest, String.toList_inj.mp ?_⟩
    rw [String.toList_append, String.toList_ofList, hrest]
  · rintro ⟨key, hname⟩
    exact ⟨key.toList, by rw [hname, String.toList_append]⟩

namespace Mapper

/-- Nothing but a placeholder has a name that is marked: no override is named like one, and the names
of declarations have no points. -/
structure Unmarked (m : Mapper) : Prop where
  overrides : ∀ entry ∈ m.overrides.values, ¬Resolution.isPlaceholder entry
  declarations : ∀ d ∈ m.module.declarations, '.' ∉ d.name.toList

section Missing

variable {m : Mapper} {key : String}

theorem Unmarked.name_ne_of_override (h : m.Unmarked) {entryKey : String} {entry : FieldType}
    (hget : m.overrides.get? entryKey = some entry) : entry.name ≠ unresolvedMark ++ key := by
  intro hname
  exact h.overrides entry ((TextMap.mem_values_iff ..).mpr ⟨entryKey, hget⟩)
    (isPlaceholder_iff.mpr ⟨key, hname⟩)

theorem Unmarked.name_ne_of_declared (h : m.Unmarked) {name : String} {d : Declaration}
    (hlookup : m.module.lookup? name = some d) : name ≠ unresolvedMark ++ key := by
  rintro rfl
  have hmem : d ∈ m.module.declarations := List.mem_reverse.mp (List.mem_of_find?_eq_some hlookup)
  have hname : d.name = unresolvedMark ++ key := by simpa using List.find?_some hlookup
  have hpoint : '.' ∈ unresolvedMark.toList := by decide
  refine h.declarations d hmem ?_
  rw [hname, String.toList_append]
  exact List.mem_append_left _ hpoint

theorem name_ne_of_mem_scalarNames {name : String} (h : name ∈ scalarNames) :
    name ≠ unresolvedMark ++ key := by
  rintro rfl
  have hscalars : ∀ name ∈ scalarNames, ¬unresolvedMark.toList.isPrefixOf name.toList := by
    decide
  refine hscalars _ h (List.isPrefixOf_iff_prefix.mpr ?_)
  rw [String.toList_append]
  exact List.prefix_append ..

/-- A placeholder is not a message. -/
theorem Unmarked.not_isMessage (h : m.Unmarked) {t : TypeExpr}
    (hname : (m.resolve t).type.name = unresolvedMark ++ key) : ¬(m.resolve t).type.isMessage := by
  cases comesFrom_resolve (m := m) t with
  | scalar _ hkind _ => exact not_isMessage_of_scalar hkind
  | placeholder _ _ hkind _ => exact not_isMessage_of_scalar hkind
  | override _ _ hget hentry _ _ =>
      exact absurd (hentry.symm.trans hname) (h.name_ne_of_override hget)
  | record _ _ hlookup _ _ _ _ => exact absurd hname (h.name_ne_of_declared hlookup)

/-! ## Missing keys -/

theorem mem_missing_unresolved_iff (t : TypeExpr) :
    key ∈ (m.unresolved t).missing ↔ (m.unresolved t).type.name = unresolvedMark ++ key := by
  show key ∈ [m.key t] ↔ unresolvedMark ++ m.key t = unresolvedMark ++ key
  rw [List.mem_singleton, String.append_right_inj, eq_comm]

theorem Unmarked.mem_missing_lookUp_iff (h : m.Unmarked) (t : TypeExpr) :
    key ∈ (m.lookUp t).missing ↔ (m.lookUp t).type.name = unresolvedMark ++ key := by
  unfold lookUp
  split
  case h_1 entry hget =>
    exact iff_of_false List.not_mem_nil (h.name_ne_of_override hget)
  case h_2 => exact mem_missing_unresolved_iff t

/-- A name, unless its definition is followed. -/
theorem Unmarked.mem_missing_name_iff (h : m.Unmarked) {name : String}
    {follow? : Option (TypeExpr → Resolution)}
    (hfollow : follow? = none ∨ ∀ underlying, ¬m.DefinedOver name underlying) :
    key ∈ (m.resolveBy follow? (.named none name)).missing ↔
      (m.resolveBy follow? (.named none name)).type.name = unresolvedMark ++ key := by
  unfold resolveBy
  split
  case h_1 type hfound =>
    refine iff_of_false List.not_mem_nil ?_
    rcases Option.or_eq_some_iff.mp hfound with hprimitive | ⟨-, hget⟩
    · exact name_ne_of_mem_scalarNames (scalar_of_primitive hprimitive).1
    · exact h.name_ne_of_override hget
  case h_2 hnone =>
    split
    case h_1 fields hkind =>
      obtain ⟨d, hlookup, -⟩ := Option.map_eq_some_iff.mp hkind
      split
      case isTrue => exact iff_of_false List.not_mem_nil (h.name_ne_of_declared hlookup)
      case isFalse => exact mem_missing_unresolved_iff _
    case h_2 underlying follow hkind =>
      rcases hfollow with hfollow | hundefined
      · cases hfollow
      · exact absurd ⟨hnone, hkind⟩ (hundefined underlying)
    case h_3 => exact mem_missing_unresolved_iff _

theorem resolveBy_of_definedOver {name : String} {underlying : TypeExpr}
    (hdefined : m.DefinedOver name underlying) (follow : TypeExpr → Resolution) :
    m.resolveBy (some follow) (.named none name) = (follow underlying).castTo name := by
  obtain ⟨hnone, hkind⟩ := hdefined
  unfold resolveBy
  rw [hnone, hkind]

theorem missing_castTo (name : String) (r : Resolution) : (r.castTo name).missing = r.missing := by
  unfold Resolution.castTo
  split <;> rfl

theorem name_castTo (name : String) (r : Resolution) :
    (r.castTo name).type.name = r.type.name := by
  unfold Resolution.castTo
  split <;> rfl

theorem resolveWithin_of_primitive {definitions : Nat} {name : String} {type : FieldType}
    (h : primitive? name = some type) :
    m.resolveWithin definitions (.named none name) = .found type := by
  have hfound : ∀ follow?, m.resolveBy follow? (.named none name) = .found type := by
    intro follow?
    unfold resolveBy
    rw [h]
    rfl
  cases definitions <;> exact hfound _

theorem resolveWithin_pointer (definitions : Nat) (target : TypeExpr) :
    m.resolveWithin definitions (.pointer target) =
      (m.resolveWithin definitions target).pointer := by
  cases definitions <;> rfl

theorem resolveWithin_of_element? {definitions : Nat} {t element : TypeExpr}
    (helement : t.element? = some element) :
    m.resolveWithin definitions t =
      resolveBy.sequence m t element (m.resolveWithin definitions element) := by
  cases t <;> cases helement <;> cases definitions <;> rfl

/-! ## What is given up -/

theorem givenUp_pointer_iff {definitions : Nat} {target : TypeExpr} :
    m.GivenUp definitions (.pointer target) key ↔ m.GivenUp definitions target key := by
  refine ⟨fun h => ?_, .target⟩
  cases h with
  | nested helement => cases helement
  | element helement => cases helement
  | target h => exact h

theorem givenUp_sequence_iff {definitions : Nat} {t element : TypeExpr}
    (helement : t.element? = some element) :
    m.GivenUp definitions t key ↔
      (m.resolveWithin definitions element).type.repeated ∧
        (m.resolveWithin definitions element).type.name = unresolvedMark ++ key ∨
      m.GivenUp definitions element key := by
  constructor
  · intro h
    cases h with
    | nested helement' hrepeated hname =>
        cases helement.symm.trans helement'
        exact Or.inl ⟨hrepeated, hname⟩
    | element helement' h =>
        cases helement.symm.trans helement'
        exact Or.inr h
    | target => cases helement
    | definition => cases helement
  · rintro (⟨hrepeated, hname⟩ | h)
    · exact .nested helement hrepeated hname
    · exact .element helement h

theorem givenUp_definition_iff {definitions : Nat} {name : String} {underlying : TypeExpr}
    (hdefined : m.DefinedOver name underlying) :
    m.GivenUp (definitions + 1) (.named none name) key ↔ m.GivenUp definitions underlying key := by
  refine ⟨fun h => ?_, .definition hdefined⟩
  cases h with
  | nested helement => cases helement
  | element helement => cases helement
  | definition hdefined' h =>
      cases hdefined.2.symm.trans hdefined'.2
      exact h

/-- Nothing is given up in a name whose definition is not followed. -/
theorem not_givenUp_name {definitions : Nat} {name : String}
    (hfollow : definitions = 0 ∨ ∀ underlying, ¬m.DefinedOver name underlying) :
    ¬m.GivenUp definitions (.named none name) key := by
  intro h
  cases h with
  | nested helement => cases helement
  | element helement => cases helement
  | definition hdefined =>
      rcases hfollow with hzero | hundefined
      · cases hzero
      · exact hundefined _ hdefined

/-- Nothing is given up in a type without parts that is no name of the package. -/
theorem not_givenUp_atom {definitions : Nat} {t : TypeExpr} (helement : t.element? = none)
    (hpointer : ∀ target, t ≠ .pointer target) (hname : ∀ name, t ≠ .named none name) :
    ¬m.GivenUp definitions t key := by
  intro h
  cases h with
  | nested helement' => cases helement.symm.trans helement'
  | element helement' => cases helement.symm.trans helement'
  | target => exact hpointer _ rfl
  | definition => exact hname _ rfl

theorem not_definedOver_of_primitive {name : String} {type : FieldType}
    (h : primitive? name = some type) (underlying : TypeExpr) :
    ¬m.DefinedOver name underlying := by
  rintro ⟨hnone, -⟩
  rw [h] at hnone
  cases hnone

/-! ## All types -/

/-- The keys that are missing for a type are that of a placeholder and those that are given up. -/
private def Accounted (m : Mapper) (definitions : Nat) (t : TypeExpr) (key : String) : Prop :=
  key ∈ (m.resolveWithin definitions t).missing ↔
    (m.resolveWithin definitions t).type.name = unresolvedMark ++ key ∨ m.GivenUp definitions t key

private theorem Unmarked.accounted_lookUp (h : m.Unmarked) {definitions : Nat} {t : TypeExpr}
    (hlookUp : m.resolveWithin definitions t = m.lookUp t) (hkept : ¬m.GivenUp definitions t key) :
    m.Accounted definitions t key := by
  rw [Accounted, hlookUp, h.mem_missing_lookUp_iff, or_iff_left hkept]

private theorem accounted_pointer {definitions : Nat} {target : TypeExpr}
    (h : m.Accounted definitions target key) : m.Accounted definitions (.pointer target) key := by
  rw [Accounted, resolveWithin_pointer, givenUp_pointer_iff]
  exact h

private theorem accounted_bytes {definitions : Nat} {t element : TypeExpr}
    (helement : t.element? = some element) (hbyte : element.isByte) :
    m.Accounted definitions t key := by
  obtain ⟨name, type, rfl, hprimitive⟩ :
      ∃ name type, element = .named none name ∧ primitive? name = some type := by
    obtain rfl | rfl : element = .ofName "byte" ∨ element = .ofName "uint8" := by
      simpa [TypeExpr.isByte] using hbyte
    · exact ⟨_, _, rfl, rfl⟩
    · exact ⟨_, _, rfl, rfl⟩
  -- a byte is a scalar with a name of its own
  have hkept : ¬m.GivenUp definitions t key := by
    rw [givenUp_sequence_iff helement, resolveWithin_of_primitive hprimitive]
    rintro (⟨-, hname⟩ | h)
    · exact name_ne_of_mem_scalarNames (scalar_of_primitive hprimitive).1 hname
    · exact not_givenUp_name (.inr (not_definedOver_of_primitive hprimitive)) h
  rw [Accounted, resolveWithin_of_element? helement, resolveBy.sequence, if_pos hbyte,
    or_iff_left hkept]
  exact iff_of_false List.not_mem_nil (name_ne_of_mem_scalarNames (by decide))

private theorem Unmarked.accounted_sequence (h : m.Unmarked) {definitions : Nat}
    {t element : TypeExpr} (helement : t.element? = some element)
    (ih : m.Accounted definitions element key) : m.Accounted definitions t key := by
  by_cases hbyte : element.isByte
  · exact accounted_bytes helement hbyte
  rw [Accounted, resolveWithin_of_element? helement, givenUp_sequence_iff helement,
    resolveBy.sequence, if_neg hbyte]
  by_cases hrepeated : (m.resolveWithin definitions element).type.repeated
  · -- the elements are given up for what the overrides say of the whole
    rw [if_pos hrepeated]
    show key ∈ _ ++ (m.lookUp t).missing ↔ (m.lookUp t).type.name = _ ∨ _
    rw [List.mem_append, h.mem_missing_lookUp_iff, or_comm, and_iff_right hrepeated]
    exact or_congr_right ih
  · rw [if_neg hrepeated, or_iff_right (not_and_of_not_left _ hrepeated)]
    exact ih

/-- Where all names are accounted for, all types are. -/
private theorem Unmarked.accounted_of_names (h : m.Unmarked) {definitions : Nat}
    (hnames : ∀ name, m.Accounted definitions (.named none name) key) (t : TypeExpr) :
    m.Accounted definitions t key := by
  induction t with
  | named package? name =>
      cases package? with
      | none => exact hnames name
      | some package =>
          exact h.accounted_lookUp (by cases definitions <;> rfl)
            (not_givenUp_atom rfl nofun nofun)
  | pointer target ih => exact accounted_pointer ih
  | slice element ih => exact h.accounted_sequence rfl ih
  | array length element ih => exact h.accounted_sequence rfl ih
  | map keyType value =>
      exact h.accounted_lookUp (by cases definitions <;> rfl)
        (not_givenUp_atom rfl nofun nofun)
  | verbatim text =>
      exact h.accounted_lookUp (by cases definitions <;> rfl)
        (not_givenUp_atom rfl nofun nofun)

/-- **What is missing.**  A key is missing for a type exactly when the type is a placeholder for the
key, or the key is given up on the way. -/
theorem Unmarked.mem_missing_iff (h : m.Unmarked) (definitions : Nat) (t : TypeExpr) :
    key ∈ (m.resolveWithin definitions t).missing ↔
      (m.resolveWithin definitions t).type.name = unresolvedMark ++ key ∨
        m.GivenUp definitions t key := by
  induction definitions generalizing t with
  | zero =>
      refine h.accounted_of_names (fun name => ?_) t
      -- no definition is followed
      rw [Accounted, or_iff_left (not_givenUp_name (.inl rfl))]
      exact h.mem_missing_name_iff (.inl rfl)
  | succ definitions ih =>
      refine h.accounted_of_names (fun name => ?_) t
      -- a definition passes on the keys of what it is over, and any other name has its own
      by_cases hdefined : ∃ underlying, m.DefinedOver name underlying
      · obtain ⟨underlying, hdefined⟩ := hdefined
        rw [Accounted, resolveWithin, resolveBy_of_definedOver hdefined, missing_castTo,
          name_castTo, givenUp_definition_iff hdefined]
        exact ih underlying
      · have hundefined : ∀ underlying, ¬m.DefinedOver name underlying :=
          not_exists.mp hdefined
        rw [Accounted, or_iff_left (not_givenUp_name (.inr hundefined))]
        exact h.mem_missing_name_iff (.inr hundefined)

end Missing

/-! ## Types that are written -/

private theorem exists_mem_flatMap_iff {α β : Type} {f : α → List β} {l : List α} {P : β → Prop} :
    (∃ b ∈ l.flatMap f, P b) ↔ ∃ a ∈ l, ∃ b ∈ f a, P b := by
  simp only [List.mem_flatMap]
  constructor
  · rintro ⟨b, ⟨a, ha, hb⟩, hholds⟩
    exact ⟨a, ha, b, hb, hholds⟩
  · rintro ⟨a, ha, b, hb, hholds⟩
    exact ⟨b, ⟨a, ha, hb⟩, hholds⟩

/-- The types of the fields that a declaration puts into its document. -/
def written (m : Mapper) (d : Declaration) : List TypeExpr :=
  match d.kind with
  | .record fields => visibleTypes fields
  | .contract members => (memberLists members).flatMap fun list => visibleTypes (m.madeFields list)
  | .defined _ => []

section Written

variable {m : Mapper} {key : String}

/-- The messages that a declaration adds have fields of the types that it writes. -/
theorem exists_field_of_added_iff {d : Declaration} {additions : List Addition}
    (h : m.additions d = .ok additions) (P : FieldType → Prop) :
    (∃ msg ∈ messagesOf additions, ∃ f ∈ msg.fields, P f.type) ↔
      ∃ t ∈ m.written d, P (m.resolve t).type := by
  simp only [mem_messagesOf_iff]
  rcases additions_eq_ok_cases h with
    ⟨fields, message, hkind, hmessage, rfl⟩ | ⟨members, rpcs, hkind, hrpcs, rfl⟩ | ⟨_, hkind, rfl⟩
  · rw [written, hkind, ← exists_field_of_message_iff hmessage]
    simp
  · have hreduce (wrapperName : String) (list : List Param) (r : Reduction)
        (hr : (m.reduce wrapperName list).value = .ok r) :
        (∃ msg, Addition.message msg = r.addition ∧ ∃ f ∈ msg.fields, P f.type) ↔
          ∃ t ∈ visibleTypes (m.madeFields list), P (m.resolve t).type := by
      rcases value_reduce_eq_ok_cases hr with ⟨_, -, hmade, rfl⟩ | ⟨message, -, hmessage, rfl⟩
      · simp [Reduction.addition, hmade, visibleTypes]
      · rw [← exists_field_of_message_iff hmessage]
        simp [Reduction.addition]
    rw [written, hkind]
    dsimp only
    rw [exists_mem_flatMap_iff, ← exists_rpc_iff hreduce hrpcs]
    simp only [mem_contractAdditions_iff, reduceCtorEq, or_false]
    constructor
    · rintro ⟨msg, ⟨rpc, hrpc, hadded⟩, hf⟩
      exact ⟨rpc, hrpc, hadded.imp (fun h => ⟨msg, h, hf⟩) fun h => ⟨msg, h, hf⟩⟩
    · rintro ⟨rpc, hrpc, ⟨msg, hadded, hf⟩ | ⟨msg, hadded, hf⟩⟩
      · exact ⟨msg, ⟨rpc, hrpc, .inl hadded⟩, hf⟩
      · exact ⟨msg, ⟨rpc, hrpc, .inr hadded⟩, hf⟩
  · simp [written, hkind]

end Written

/-! ## Types that are only consulted -/

section Consulted

variable {m : Mapper} {key : String}

/-- A wrapper of one member has one field or none. -/
private theorem visibleTypes_wrapper_cases (only : Param) :
    visibleTypes (wrapperFields [] [only]) = [only.type] ∨
      visibleTypes (wrapperFields [] [only]) = [] := by
  have hfields : wrapperFields [] [only] =
      [plainField (freshName [] (memberName only)) only.type] := rfl
  rw [hfields]
  cases hname : visibleName? (plainField (freshName [] (memberName only)) only.type) with
  | none => exact Or.inr (visibleTypes_cons_of_none hname)
  | some name => exact Or.inl (visibleTypes_cons_of_some hname)

private theorem mem_hiddenMember {only : Param} {t : TypeExpr} (h : t ∈ hiddenMember [only]) :
    t = only.type := by
  rw [hiddenMember] at h
  split_ifs at h
  · exact List.mem_singleton.mp h
  · cases h

/-- A placeholder that is consulted for some members is written for them, or belongs to a member
that is hidden. -/
private theorem Unmarked.exists_consultedFor_iff (h : m.Unmarked) (members : List Param) :
    (∃ t ∈ m.consultedFor members, (m.resolve t).type.name = unresolvedMark ++ key) ↔
      (∃ t ∈ visibleTypes (m.madeFields members),
        (m.resolve t).type.name = unresolvedMark ++ key) ∨
      ∃ t ∈ hiddenMember members, (m.resolve t).type.name = unresolvedMark ++ key := by
  by_cases hsingle : ∃ only, members = [only]
  · obtain ⟨only, rfl⟩ := hsingle
    have hconsulted : m.consultedFor [only] = only.type :: visibleTypes (m.madeFields [only]) := rfl
    rw [hconsulted, List.exists_mem_cons_iff]
    by_cases hmarked : (m.resolve only.type).type.name = unresolvedMark ++ key
    · -- a placeholder is no message, so a wrapper is made
      have hmade : m.madeFields [only] = wrapperFields [] [only] := by
        simp [madeFields, h.not_isMessage hmarked]
      refine iff_of_true (Or.inl hmarked) ?_
      rw [hmade]
      rcases visibleTypes_wrapper_cases only with hvisible | hhidden
      · exact Or.inl ⟨only.type, by simp [hvisible], hmarked⟩
      · exact Or.inr ⟨only.type, by simp [hiddenMember, hhidden], hmarked⟩
    · have hnone : ¬∃ t ∈ hiddenMember [only],
          (m.resolve t).type.name = unresolvedMark ++ key := by
        rintro ⟨t, ht, hname⟩
        exact hmarked (mem_hiddenMember ht ▸ hname)
      rw [or_iff_right hmarked, or_iff_left hnone]
  · have hne : ∀ only, members ≠ [only] := fun only hsame => hsingle ⟨only, hsame⟩
    have hhidden : hiddenMember members = [] := by
      unfold hiddenMember
      split
      · exact absurd rfl (hne _)
      · rfl
    rw [consultedFor_of_ne_singleton m hne, hhidden]
    simp

theorem Unmarked.exists_consulted_iff (h : m.Unmarked) (d : Declaration) :
    (∃ t ∈ m.consulted d, (m.resolve t).type.name = unresolvedMark ++ key) ↔
      (∃ t ∈ m.written d, (m.resolve t).type.name = unresolvedMark ++ key) ∨
        ∃ t ∈ hiddenTypes d, (m.resolve t).type.name = unresolvedMark ++ key := by
  unfold consulted written hiddenTypes
  cases d.kind with
  | record fields => simp
  | contract members =>
      dsimp only
      simp only [exists_mem_flatMap_iff, h.exists_consultedFor_iff, ← exists_or, ← and_or_left]
  | defined type => simp

end Consulted

end Mapper

/-! ## All documents -/

section Documents

variable {options : Options} {module : Module} {docs : Documents} {key : String}

/-- A placeholder of a document is one that a selected declaration writes. -/
theorem hasPlaceholder_iff (h : translation options module = .ok docs) :
    HasPlaceholder docs key ↔ ∃ d ∈ select options.filter module.declarations,
      ∃ t ∈ (mapperFor options module).written d,
        ((mapperFor options module).resolve t).type.name = unresolvedMark ++ key := by
  have hheld := exists_message_iff h fun _ fields =>
    ∃ f ∈ fields, f.type.name = unresolvedMark ++ key
  refine hheld.trans (exists_congr fun d => and_congr_right fun hd => ?_)
  obtain ⟨additions, hadditions⟩ :=
    (translation_eq_ok_iff.mp h).1.exists_additions_of_mem_select hd
  rw [Mapper.added_of_ok hadditions]
  exact Mapper.exists_field_of_added_iff hadditions fun type => type.name = unresolvedMark ++ key

/-- **Placeholders and warnings.**  A key is reported as missing exactly when some field is a
placeholder for it, or it was overlooked. -/
theorem mem_warnedKeys_iff
    (hoverrides : ∀ entry ∈ options.overrides.values, ¬Resolution.isPlaceholder entry)
    (hnames : ∀ d ∈ module.declarations, '.' ∉ d.name.toList)
    (h : translation options module = .ok docs) (key : String) :
    key ∈ warnedKeys options module ↔
      HasPlaceholder docs key ∨ Overlooked options module key := by
  have hunmarked : (mapperFor options module).Unmarked := ⟨hoverrides, hnames⟩
  have hmissing : key ∈ warnedKeys options module ↔
      ∃ d ∈ select options.filter module.declarations,
        ∃ t ∈ (mapperFor options module).consulted d,
          key ∈ ((mapperFor options module).resolve t).missing := by
    rw [warnedKeys_eq_of_ok h, Mapper.missingFor, List.mem_flatMap,
      Mapper.exists_mem_flatMap_iff]
  rw [hmissing, hasPlaceholder_iff h, Overlooked, ← exists_or]
  refine exists_congr fun d => ?_
  rw [← and_or_left]
  refine and_congr_right fun _ => ?_
  -- what is missing for a type that is consulted is a placeholder or given up
  have hsplit : (∃ t ∈ (mapperFor options module).consulted d,
        key ∈ ((mapperFor options module).resolve t).missing) ↔
      (∃ t ∈ (mapperFor options module).consulted d,
        ((mapperFor options module).resolve t).type.name = unresolvedMark ++ key) ∨
      ∃ t ∈ (mapperFor options module).consulted d,
        (mapperFor options module).GivenUp maxDefinitions t key := by
    rw [← exists_or]
    refine exists_congr fun t => ?_
    rw [← and_or_left]
    exact and_congr_right fun _ => hunmarked.mem_missing_iff maxDefinitions t
  rw [hsplit, hunmarked.exists_consulted_iff, or_assoc]
  exact or_congr_right or_comm

end Documents

/-! ## An example -/

/-- A package with a record of cells in rows. -/
def grid : Module where
  name := "grid"
  declarations := [
    ⟨"Grid", "", "grid.go", ⟨3, 1⟩, .record [
      ⟨some "Cells", .slice (.slice (.named (some "sql") "NullString")), Tag.empty, "", ⟨4, 2⟩⟩]⟩]

/-- An override for the rows of cells. -/
def gridOptions : Options :=
  { Options.standard with overrides := .ofList [("[][]sql.NullString", .scalar "string")] }

/-- The document of the package with the override. -/
def gridDocument : Document :=
  { newDocument gridOptions grid "grid.proto" with
    messages := [⟨"Grid", "", [⟨"cells", "", 1, .scalar "string", ⟨none, false, none⟩⟩]⟩] }

theorem translation_grid :
    translation gridOptions grid = .ok (.ofList [("grid.proto", gridDocument)]) := by
  decide +kernel

theorem not_isPlaceholder_gridOptions :
    ∀ entry ∈ gridOptions.overrides.values, ¬Resolution.isPlaceholder entry := by
  decide +kernel

theorem not_hasPlaceholder_grid :
    ¬HasPlaceholder (.ofList [("grid.proto", gridDocument)]) "sql.NullString" := by
  decide +kernel

/-- What the translation of the grid reports is overlooked. -/
theorem overlooked_grid :
    (∀ entry ∈ gridOptions.overrides.values, ¬Resolution.isPlaceholder entry) ∧
      (∀ d ∈ grid.declarations, '.' ∉ d.name.toList) ∧
      translation gridOptions grid = .ok (.ofList [("grid.proto", gridDocument)]) ∧
      Overlooked gridOptions grid "sql.NullString" := by
  have hnames : ∀ d ∈ grid.declarations, '.' ∉ d.name.toList := by decide
  have hwarned : "sql.NullString" ∈ warnedKeys gridOptions grid := by decide +kernel
  have hkeys := mem_warnedKeys_iff not_isPlaceholder_gridOptions hnames translation_grid
    "sql.NullString"
  refine ⟨not_isPlaceholder_gridOptions, hnames, translation_grid, ?_⟩
  exact (hkeys.mp hwarned).resolve_left not_hasPlaceholder_grid

/-- **A warning without a placeholder.**  All types of the package are mapped, and yet an override
is asked for. -/
theorem warnedKeys_grid :
    (∀ entry ∈ gridOptions.overrides.values, ¬Resolution.isPlaceholder entry) ∧
      translation gridOptions grid = .ok (.ofList [("grid.proto", gridDocument)]) ∧
      ¬∀ key, key ∈ warnedKeys gridOptions grid ↔
        HasPlaceholder (.ofList [("grid.proto", gridDocument)]) key := by
  have hwarned : "sql.NullString" ∈ warnedKeys gridOptions grid := by decide +kernel
  refine ⟨not_isPlaceholder_gridOptions, translation_grid, fun hsame => ?_⟩
  exact not_hasPlaceholder_grid ((hsame "sql.NullString").mp hwarned)

end GoSchema.Mapping
