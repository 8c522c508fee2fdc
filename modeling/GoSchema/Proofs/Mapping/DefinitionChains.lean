import GoSchema.Proofs.Mapping.Overriding

/-!
# Chains of definitions

A type can be defined over a type that is defined over a third one, and so on.  The mapper follows
sixteen definitions and no more, so that it comes to an end even if they go round in circles.

If the names of a chain are followed as far as they go, what they come down to is a primitive type,
and of the casts that are noted on the way back the last one stays, which is that of the first name
(`resolveWithin_of_chain`).  If they are not, the name that is reached in the end becomes a
placeholder, and no step back turns a placeholder into a cast (`resolveWithin_of_long_chain`).  A
cycle is a chain that never ends.
-/

namespace GoSchema.Mapping

open Schema Go

namespace Mapper

/-- Each of so many names is defined over the next one. -/
def Chain (m : Mapper) (names : ℕ → String) (length : ℕ) : Prop :=
  ∀ i < length, m.DefinedOver (names i) (.ofName (names (i + 1)))

/-- The placeholder for a name of the package, with its key as the one that is missing. -/
def placeholder (m : Mapper) (name : String) : Resolution :=
  ⟨.scalar (unresolvedMark ++ m.module.name ++ "." ++ name), [m.module.name ++ "." ++ name]⟩

section Chain

variable {m : Mapper} {names : ℕ → String}

theorem Chain.mono {length shorter : ℕ} (h : m.Chain names length) (hle : shorter ≤ length) :
    m.Chain names shorter := by
  intro i hi
  exact h i (hi.trans_le hle)

/-- The chain after its first name. -/
theorem Chain.tail {length : ℕ} (h : m.Chain names (length + 1)) :
    m.Chain (fun i => names (i + 1)) length := by
  intro i hi
  exact h (i + 1) (Nat.succ_lt_succ hi)

/-! ## One definition -/

/-- A definition that is followed. -/
theorem resolveWithin_succ_of_definedOver {name target : String}
    (h : m.DefinedOver name (.ofName target)) (definitions : ℕ) :
    m.resolveWithin (definitions + 1) (.ofName name) =
      (m.resolveWithin definitions (.ofName target)).castTo name :=
  resolveBy_of_definedOver h _

/-- A definition that is not followed. -/
theorem resolveWithin_zero_of_definedOver {name target : String}
    (h : m.DefinedOver name (.ofName target)) :
    m.resolveWithin 0 (.ofName name) = m.unresolved (.ofName name) := by
  obtain ⟨hnone, hkind⟩ := h
  show m.resolveBy none (.named none name) = _
  unfold resolveBy
  rw [hnone, hkind]

theorem castTo_of_isPlaceholder {r : Resolution} (h : Resolution.isPlaceholder r.type)
    (name : String) : r.castTo name = r := by
  unfold Resolution.castTo
  rw [h, Bool.or_true, if_pos rfl]

theorem isPlaceholder_unresolved (t : TypeExpr) :
    Resolution.isPlaceholder (m.unresolved t).type :=
  isPlaceholder_iff.mpr ⟨m.key t, rfl⟩

theorem not_repeated_of_primitive {name : String} {type : FieldType}
    (h : primitive? name = some type) : ¬type.repeated := by
  unfold primitive? at h
  split at h <;> cases h <;> exact Bool.false_ne_true

/-- A primitive type takes the cast of each name that is defined over it. -/
theorem castTo_of_primitive {primitive : String} {type : FieldType}
    (h : primitive? primitive = some type) (cast? : Option String) (name : String) :
    (Resolution.found { type with castType? := cast? }).castTo name =
      .found { type with castType? := some name } := by
  obtain ⟨hname, hkind, -⟩ := scalar_of_primitive h
  have hmessage : ¬type.isMessage := not_isMessage_of_scalar hkind
  have hrepeated : ¬type.repeated := not_repeated_of_primitive h
  have hplaceholder : ¬Resolution.isPlaceholder type := by
    rw [isPlaceholder_iff]
    rintro ⟨key, hmarked⟩
    exact name_ne_of_mem_scalarNames hname hmarked
  refine if_neg ?_
  rw [Bool.or_eq_true, Bool.or_eq_true]
  rintro ((h | h) | h)
  · exact hmessage h
  · exact hrepeated h
  · exact hplaceholder h

/-! ## Many definitions -/

/-- **A chain that is followed to its end.** -/
theorem resolveWithin_of_chain {length definitions : ℕ} {type : FieldType} (hpos : 0 < length)
    (hchain : m.Chain names length) (hprimitive : primitive? (names length) = some type)
    (hle : length ≤ definitions) :
    m.resolveWithin definitions (.ofName (names 0)) =
      .found { type with castType? := some (names 0) } := by
  induction length generalizing names definitions with
  | zero => exact absurd hpos (Nat.lt_irrefl 0)
  | succ more ih =>
      obtain ⟨fewer, rfl⟩ : ∃ fewer, definitions = fewer + 1 := ⟨definitions - 1, by omega⟩
      rw [resolveWithin_succ_of_definedOver (hchain 0 hpos)]
      cases more with
      | zero =>
          have hend : m.resolveWithin fewer (.ofName (names 1)) = .found type :=
            resolveWithin_of_primitive hprimitive
          rw [hend]
          exact castTo_of_primitive hprimitive type.castType? (names 0)
      | succ more =>
          rw [ih (Nat.succ_pos more) hchain.tail hprimitive (by omega)]
          exact castTo_of_primitive hprimitive _ (names 0)

/-- **A chain that goes on where no further definition is followed.** -/
theorem resolveWithin_of_long_chain {definitions : ℕ} (hchain : m.Chain names (definitions + 1)) :
    m.resolveWithin definitions (.ofName (names 0)) =
      m.unresolved (.ofName (names definitions)) := by
  induction definitions generalizing names with
  | zero => exact resolveWithin_zero_of_definedOver (hchain 0 Nat.one_pos)
  | succ fewer ih =>
      rw [resolveWithin_succ_of_definedOver (hchain 0 (Nat.succ_pos _)), ih hchain.tail]
      exact castTo_of_isPlaceholder (isPlaceholder_unresolved _) (names 0)

/-- The key of a defined name is that of the package and the name. -/
theorem unresolved_of_definedOver {name target : String} (h : m.DefinedOver name (.ofName target)) :
    m.unresolved (.ofName name) = m.placeholder name := by
  have hdeclares : m.module.declares name := by
    obtain ⟨d, hlookup, -⟩ := Option.map_eq_some_iff.mp h.2
    exact Option.isSome_of_eq_some hlookup
  rw [unresolved, key_of_declares hdeclares, placeholder, ← String.append_assoc,
    ← String.append_assoc]

end Chain

/-! ## The statement -/

/-- **Chains and cycles of definitions.**  Names are defined one over the next, and the last one
over a primitive type: up to sixteen of them resolve to the scalar of that type with the first name
as its cast, and of more than that the seventeenth is a placeholder.  If names are defined over each
other in a circle, each of them resolves to the placeholder of the one sixteen steps further
round. -/
theorem resolve_of_definitions (m : Mapper) :
    (∀ (names : ℕ → String) (length : ℕ) (type : FieldType), 1 ≤ length → m.Chain names length →
      primitive? (names length) = some type →
        m.resolve (.ofName (names 0)) =
          if length ≤ 16 then .found { type with castType? := some (names 0) }
          else m.placeholder (names 16)) ∧
    ∀ (names : ℕ → String) (length : ℕ),
      (∀ i < length, m.DefinedOver (names i) (.ofName (names ((i + 1) % length)))) →
        ∀ i < length,
          m.resolve (.ofName (names i)) = m.placeholder (names ((i + 16) % length)) := by
  constructor
  · intro names length type hpos hchain hprimitive
    split
    case isTrue hshort => exact resolveWithin_of_chain hpos hchain hprimitive hshort
    case isFalse hlong =>
      have hlonger : 16 < length := Nat.lt_of_not_le hlong
      have hfollowed : m.resolve (.ofName (names 0)) = m.unresolved (.ofName (names 16)) :=
        resolveWithin_of_long_chain (hchain.mono hlonger)
      rw [hfollowed, unresolved_of_definedOver (hchain 16 hlonger)]
  · intro names length hcycle i hi
    have hpos : 0 < length := by omega
    -- going round from a name is a chain that does not end
    have hround (j : ℕ) : m.DefinedOver (names ((i + j) % length))
        (.ofName (names ((i + (j + 1)) % length))) := by
      have hnext := hcycle ((i + j) % length) (Nat.mod_lt _ hpos)
      rwa [Nat.mod_add_mod] at hnext
    have hchain : m.Chain (fun j => names ((i + j) % length)) 17 := fun j _ => hround j
    have hfollowed := resolveWithin_of_long_chain hchain
    rw [unresolved_of_definedOver (hround 16), Nat.add_zero, Nat.mod_eq_of_lt hi] at hfollowed
    exact hfollowed

end Mapper

/-! ## Examples -/

/-- The names of a chain of so many definitions, and then the type that it ends in. -/
def rung (length i : ℕ) : String := if i < length then "Rung" ++ toString i else "int16"

/-- A package with a chain of so many definitions. -/
def ladder (length : ℕ) : Module where
  name := "ladder"
  declarations := (List.range length).map fun i =>
    ⟨rung length i, "", "ladder.go", ⟨i + 3, 1⟩, .defined (.ofName (rung length (i + 1)))⟩

/-- The times of a day, which follow each other. -/
def daytime : ℕ → String
  | 0 => "Morning"
  | 1 => "Noon"
  | _ => "Night"

/-- A package with a cycle of definitions. -/
def day : Module where
  name := "day"
  declarations := (List.range 3).map fun i =>
    ⟨daytime i, "", "day.go", ⟨i + 3, 1⟩, .defined (.ofName (daytime ((i + 1) % 3)))⟩

/-- The longest chain that is followed, a chain of one more definition, and a cycle. -/
theorem resolve_ladder_day :
    ((mapperFor .standard (ladder 16)).Chain (rung 16) 16 ∧
        (mapperFor .standard (ladder 16)).resolve (.ofName "Rung0") =
          .found { FieldType.scalar "int32" with castType? := some "Rung0" }) ∧
      ((mapperFor .standard (ladder 17)).Chain (rung 17) 17 ∧
        (mapperFor .standard (ladder 17)).resolve (.ofName "Rung0") =
          ⟨.scalar "UNRESOLVED.ladder.Rung16", ["ladder.Rung16"]⟩) ∧
      (∀ i < 3, (mapperFor .standard day).DefinedOver (daytime i)
          (.ofName (daytime ((i + 1) % 3)))) ∧
        (mapperFor .standard day).resolve (.ofName "Noon") =
          ⟨.scalar "UNRESOLVED.day.Night", ["day.Night"]⟩ := by
  have hshort : (mapperFor .standard (ladder 16)).Chain (rung 16) 16 := by
    unfold Mapper.Chain Mapper.DefinedOver
    decide +kernel
  have hlong : (mapperFor .standard (ladder 17)).Chain (rung 17) 17 := by
    unfold Mapper.Chain Mapper.DefinedOver
    decide +kernel
  have hcycle : ∀ i < 3, (mapperFor .standard day).DefinedOver (daytime i)
      (.ofName (daytime ((i + 1) % 3))) := by
    unfold Mapper.DefinedOver
    decide +kernel
  have hint : primitive? (rung 16 16) =
      some { FieldType.scalar "int32" with castType? := some "int16" } := by
    decide +kernel
  refine ⟨⟨hshort, ?_⟩, ⟨hlong, ?_⟩, hcycle, ?_⟩
  · have hfound := (Mapper.resolve_of_definitions _).1 (rung 16) 16 _ (by decide) hshort hint
    exact hfound
  · exact (Mapper.resolve_of_definitions _).1 (rung 17) 17 _ (by decide) hlong hint
  · exact (Mapper.resolve_of_definitions _).2 daytime 3 hcycle 1 (by decide)

end GoSchema.Mapping
