import GoSchema.Mapping.Mapper
import GoSchema.Proofs.TextMap

/-!
# What a resolution looks at

The field type of a source type depends on the package only through what its names stand for:
whether a name is a record, a contract or defined over another type, which document a record is
placed in, and the table of overrides.  Two mappers that agree on these resolve every type alike
(`Agree.resolve_eq`), whatever the fields, the documentation and the order of the declarations.

What holds of all types that a resolution starts from, and is not lost in any of its steps, holds
of every type (`Kept.resolve`).  In particular, the name, the kind and the origin of a type are
never made up on the way: they are those of a scalar, of an entry of the table, of an exported
record or of a placeholder (`comesFrom_resolve`).  Pointers, sequences and definitions pass them on
unchanged.  So what is to be shown of all types that a mapper gives is shown of these four; and
where the table is empty, a message can only be that of an exported record
(`isReference_of_isMessage`).
-/

namespace GoSchema.Go

/-- What a name stands for, without the members of records and contracts. -/
def Declaration.Kind.shape : Declaration.Kind → Declaration.Kind
  | record _ => record []
  | contract _ => contract []
  | defined type => defined type

end GoSchema.Go

namespace GoSchema.Mapping

open Schema Go

namespace Mapper

/-! ## Mappers that agree -/

/-- Two mappers see the same names and say the same of them. -/
structure Agree (m₁ m₂ : Mapper) : Prop where
  name_eq : m₁.module.name = m₂.module.name
  shape_eq : ∀ name, (m₁.module.lookup? name).map (·.kind.shape) =
    (m₂.module.lookup? name).map (·.kind.shape)
  origins_eq : m₁.origins = m₂.origins
  overrides_eq : m₁.overrides = m₂.overrides

section Agree

variable {m₁ m₂ : Mapper}

theorem Agree.declares_eq (h : m₁.Agree m₂) (name : String) :
    m₁.module.declares name = m₂.module.declares name := by
  have hsome := congrArg Option.isSome (h.shape_eq name)
  rwa [Option.isSome_map, Option.isSome_map] at hsome

theorem Agree.key_eq (h : m₁.Agree m₂) (t : TypeExpr) : m₁.key t = m₂.key t := by
  unfold key
  rw [h.name_eq]
  split
  · rw [h.declares_eq]
  · rfl

theorem Agree.lookUp_eq (h : m₁.Agree m₂) (t : TypeExpr) : m₁.lookUp t = m₂.lookUp t := by
  rw [lookUp, lookUp, unresolved, unresolved, h.key_eq, h.overrides_eq]

private theorem Agree.resolveBy_name_eq (h : m₁.Agree m₂)
    (follow? : Option (TypeExpr → Resolution)) (name : String) :
    m₁.resolveBy follow? (.named none name) = m₂.resolveBy follow? (.named none name) := by
  unfold resolveBy
  rw [h.key_eq, h.overrides_eq]
  split
  · rfl
  · -- the two declarations of the name have the same shape
    have hshape := h.shape_eq name
    have hreference : m₁.reference name = m₂.reference name := by
      rw [reference, reference, h.origins_eq]
    have hunresolved : m₁.unresolved (.ofName name) = m₂.unresolved (.ofName name) := by
      rw [unresolved, unresolved, h.key_eq]
    rw [hreference, hunresolved]
    rcases h₁ : m₁.module.lookup? name with _ | d₁ <;>
      rcases h₂ : m₂.module.lookup? name with _ | d₂
    · rfl
    · simp [h₁, h₂] at hshape
    · simp [h₁, h₂] at hshape
    · simp only [h₁, h₂, Option.map_some, Option.some.injEq] at hshape ⊢
      cases hk₁ : d₁.kind <;> cases hk₂ : d₂.kind <;> simp_all [Declaration.Kind.shape]

theorem Agree.resolveBy_eq (h : m₁.Agree m₂) (follow? : Option (TypeExpr → Resolution))
    (t : TypeExpr) : m₁.resolveBy follow? t = m₂.resolveBy follow? t := by
  induction t with
  | named package? name =>
      cases package? with
      | none => exact h.resolveBy_name_eq follow? name
      | some package => exact h.lookUp_eq _
  | pointer target ih => exact congrArg Resolution.pointer ih
  | slice element ih => simp only [resolveBy, resolveBy.sequence, ih, h.lookUp_eq]
  | array length element ih => simp only [resolveBy, resolveBy.sequence, ih, h.lookUp_eq]
  | map key value => exact h.lookUp_eq _
  | verbatim text => exact h.lookUp_eq _

theorem Agree.resolveWithin_eq (h : m₁.Agree m₂) (definitions : Nat) :
    m₁.resolveWithin definitions = m₂.resolveWithin definitions := by
  induction definitions with
  | zero => exact funext fun t => h.resolveBy_eq none t
  | succ definitions ih =>
      funext t
      rw [resolveWithin, resolveWithin, ih]
      exact h.resolveBy_eq _ t

/-- Mappers that agree resolve every type alike. -/
theorem Agree.resolve_eq (h : m₁.Agree m₂) (t : TypeExpr) : m₁.resolve t = m₂.resolve t :=
  congrFun (h.resolveWithin_eq maxDefinitions) t

end Agree

/-! ## What every step keeps -/

/-- A property of types that holds wherever a type comes from, and that no step of a resolution
loses. -/
structure Kept (m : Mapper) (P : FieldType → Prop) : Prop where
  primitive : ∀ name type, primitive? name = some type → P type
  bytes : P (.scalar "bytes")
  placeholder : ∀ key, P (.scalar (unresolvedMark ++ key))
  override : ∀ key type, m.overrides.get? key = some type → P type
  reference : ∀ name d fields, m.module.lookup? name = some d → d.kind = .record fields →
    Naming.isExported name → P (m.reference name)
  pointer : ∀ r : Resolution, P r.type → P r.pointer.type
  castTo : ∀ (r : Resolution) name, P r.type → P (r.castTo name).type
  sequence : ∀ type : FieldType, ¬type.repeated → P type →
    P { type with repeated := true, optional := false }

section Kept

variable {m : Mapper} {P : FieldType → Prop}

private theorem Kept.lookUp (h : m.Kept P) (t : TypeExpr) : P (m.lookUp t).type := by
  unfold Mapper.lookUp
  split
  case h_1 type hget => exact h.override _ type hget
  case h_2 => exact h.placeholder (m.key t)

private theorem Kept.sequenceOf (h : m.Kept P) {whole element : TypeExpr} {r : Resolution}
    (hr : P r.type) : P (resolveBy.sequence m whole element r).type := by
  unfold resolveBy.sequence
  split_ifs with hbyte hrepeated
  · exact h.bytes
  · exact h.lookUp whole
  · exact h.sequence r.type hrepeated hr

private theorem Kept.name (h : m.Kept P) {follow? : Option (TypeExpr → Resolution)}
    (hfollow : ∀ follow ∈ follow?, ∀ t, P (follow t).type) (name : String) :
    P (m.resolveBy follow? (.named none name)).type := by
  unfold resolveBy
  split
  case h_1 type hfound =>
    rcases Option.or_eq_some_iff.mp hfound with hprimitive | ⟨-, hget⟩
    · exact h.primitive name type hprimitive
    · exact h.override _ type hget
  case h_2 =>
    split
    case h_1 fields hkind =>
      obtain ⟨d, hlookup, hrecord⟩ := Option.map_eq_some_iff.mp hkind
      split
      case isTrue hexported => exact h.reference name d fields hlookup hrecord hexported
      case isFalse => exact h.placeholder _
    case h_2 underlying follow _ => exact h.castTo _ name (hfollow follow rfl underlying)
    case h_3 => exact h.placeholder _

private theorem Kept.resolveBy (h : m.Kept P) {follow? : Option (TypeExpr → Resolution)}
    (hfollow : ∀ follow ∈ follow?, ∀ t, P (follow t).type) (t : TypeExpr) :
    P (m.resolveBy follow? t).type := by
  induction t with
  | named package? name =>
      cases package? with
      | none => exact h.name hfollow name
      | some package => exact h.lookUp _
  | pointer target ih => exact h.pointer _ ih
  | slice element ih => exact h.sequenceOf ih
  | array length element ih => exact h.sequenceOf ih
  | map key value => exact h.lookUp _
  | verbatim text => exact h.lookUp _

private theorem Kept.resolveWithin (h : m.Kept P) (definitions : Nat) (t : TypeExpr) :
    P (m.resolveWithin definitions t).type := by
  induction definitions generalizing t with
  | zero => exact h.resolveBy (by simp) t
  | succ definitions ih =>
      refine h.resolveBy (fun follow hfollow t => ?_) t
      cases hfollow
      exact ih t

/-- **What every step keeps, every type has.** -/
theorem Kept.resolve (h : m.Kept P) (t : TypeExpr) : P (m.resolve t).type :=
  h.resolveWithin maxDefinitions t

end Kept

/-! ## Where types come from -/

/-- The names of the scalars that the mapper knows by itself. -/
def scalarNames : List String :=
  ["bool", "string", "int64", "int32", "uint64", "uint32", "double", "float", "bytes"]

/-- What the name, the kind and the origin of a type are taken from. -/
inductive ComesFrom (m : Mapper) (type : FieldType) : Prop where
  | scalar (hname : type.name ∈ scalarNames) (hkind : type.kind = .scalar)
      (horigin : type.origin? = none)
  | placeholder (key : String) (hname : type.name = unresolvedMark ++ key)
      (hkind : type.kind = .scalar) (horigin : type.origin? = none)
  | override (key : String) (entry : FieldType) (hget : m.overrides.get? key = some entry)
      (hname : type.name = entry.name) (hkind : type.kind = entry.kind)
      (horigin : type.origin? = entry.origin?)
  | record (d : Declaration) (fields : List Go.Field)
      (hlookup : m.module.lookup? type.name = some d) (hrecord : d.kind = .record fields)
      (hexported : Naming.isExported type.name) (hkind : type.kind = .message)
      (horigin : type.origin? = m.origins.get? type.name)

section ComesFrom

variable {m : Mapper}

/-- The other parts of a type do not count. -/
private theorem ComesFrom.congr {type type' : FieldType} (h : m.ComesFrom type)
    (hname : type'.name = type.name) (hkind : type'.kind = type.kind)
    (horigin : type'.origin? = type.origin?) : m.ComesFrom type' := by
  cases h with
  | scalar hname' hkind' horigin' =>
      exact .scalar (hname ▸ hname') (hkind.trans hkind') (horigin.trans horigin')
  | placeholder key hname' hkind' horigin' =>
      exact .placeholder key (hname.trans hname') (hkind.trans hkind') (horigin.trans horigin')
  | override key entry hget hname' hkind' horigin' =>
      exact .override key entry hget (hname.trans hname') (hkind.trans hkind')
        (horigin.trans horigin')
  | record d fields hlookup hrecord hexported hkind' horigin' =>
      rw [← hname] at hlookup hexported horigin'
      exact .record d fields hlookup hrecord hexported (hkind.trans hkind')
        (horigin.trans horigin')

/-- A primitive type is a scalar that the mapper knows by itself. -/
theorem scalar_of_primitive {name : String} {type : FieldType} (h : primitive? name = some type) :
    type.name ∈ scalarNames ∧ type.kind = .scalar ∧ type.origin? = none := by
  unfold primitive? at h
  split at h <;> cases h <;> decide

private theorem kept_comesFrom (m : Mapper) : m.Kept m.ComesFrom where
  primitive name type h := by
    obtain ⟨hname, hkind, horigin⟩ := scalar_of_primitive h
    exact .scalar hname hkind horigin
  bytes := .scalar (by decide) rfl rfl
  placeholder key := .placeholder key rfl rfl rfl
  override key type hget := .override key type hget rfl rfl rfl
  reference name d fields hlookup hrecord hexported :=
    .record d fields hlookup hrecord hexported rfl rfl
  pointer r h := h.congr rfl rfl rfl
  castTo r name h := by
    unfold Resolution.castTo
    split
    · exact h
    · exact h.congr rfl rfl rfl
  sequence type _ h := h.congr rfl rfl rfl

/-- **Nothing about a type is made up.**  Whatever a source type is made of, the name, the kind and
the origin of its field type come from one place. -/
theorem comesFrom_resolve (t : TypeExpr) : m.ComesFrom (m.resolve t).type :=
  (kept_comesFrom m).resolve t

end ComesFrom

/-! ## References to messages -/

/-- A field type refers to the message of an exported record, in the document that declares it. -/
structure IsReference (m : Mapper) (type : FieldType) : Prop where
  exists_record : ∃ d fields, m.module.lookup? type.name = some d ∧ d.kind = .record fields
  exported : Naming.isExported type.name
  origin_eq : type.origin? = m.origins.get? type.name

theorem not_isMessage_of_scalar {type : FieldType} (h : type.kind = .scalar) : ¬type.isMessage := by
  rw [FieldType.isMessage, h]
  decide

/-- Without overrides, a type resolves to a message only if it comes down to an exported record. -/
theorem isReference_of_isMessage {m : Mapper} (hempty : m.overrides = .empty) {t : TypeExpr}
    (h : (m.resolve t).type.isMessage) : m.IsReference (m.resolve t).type := by
  cases comesFrom_resolve (m := m) t with
  | scalar _ hkind _ => exact absurd h (not_isMessage_of_scalar hkind)
  | placeholder _ _ hkind _ => exact absurd h (not_isMessage_of_scalar hkind)
  | override _ _ hget _ _ _ =>
      rw [hempty, TextMap.get?_empty] at hget
      cases hget
  | record d fields hlookup hrecord hexported _ horigin =>
      exact ⟨⟨d, fields, hlookup, hrecord⟩, hexported, horigin⟩

end Mapper

end GoSchema.Mapping
