import GoSchema.Proofs.Go.Names
import GoSchema.Proofs.Mapping.Placeholders

/-!
# What the name of a placeholder is good for

A placeholder is named after a key, and an override of that key is meant to replace it.  That it
does is not plain: the key is found missing at the end of a way through pointers, sequences and
definitions, and an override of it takes effect wherever the key is looked up, which may be earlier
on the way and more than once (`name_resolve_withOverride`).

## Strategy

The two resolutions, without the override and with it, are followed side by side, and `Supplied`
is what relates their types at every step.  The danger is the rule for sequences: whether the key of
a sequence is looked up at all depends on whether its elements are repeated, and an override within
the elements may change that.  There are two kinds of keys.

* The key of a sequence begins with a bracket, so it is not that of a declared name.  Wherever it is
  looked up there is nothing to be found without the override but a placeholder, which is not
  repeated, just as the override is not.  So the override changes nothing about what is repeated
  (`Supplied.repeated_eq`).
* Any other key is not that of a sequence.  So once a type is a placeholder for it, no sequence
  below it was one of sequences, and an override that is met earlier is not repeated either
  (`Supplied.repeated_imp`).
-/

namespace GoSchema.Mapping

open Schema Go

namespace Mapper

/-- The mapper with one more override, which replaces any earlier one of its key. -/
def withOverride (m : Mapper) (key : String) (entry : FieldType) : Mapper :=
  { m with overrides := m.overrides.insert key entry }

/-! ## Keys -/

section Keys

variable {m : Mapper}

theorem key_of_declares {name : String} (h : m.module.declares name) :
    m.key (.ofName name) = m.module.name ++ "." ++ name := by
  show (if m.module.declares name then _ else _) = _
  rw [if_pos h]

theorem head?_key_of_element? {t element : TypeExpr} (helement : t.element? = some element) :
    (m.key t).toList.head? = some '[' := by
  cases t with
  | slice element =>
      show ("[]" ++ element.display).toList.head? = some '['
      rw [String.toList_append]
      rfl
  | array length element =>
      show ("[" ++ length ++ "]" ++ element.display).toList.head? = some '['
      rw [String.append_assoc, String.append_assoc, String.toList_append]
      rfl
  | named | pointer | map | verbatim => cases helement

/-- The key of a declared name begins with the name of the package. -/
theorem head?_key_ne_of_declares (h : m.module.WellNamed) {name : String}
    (hdeclares : m.module.declares name) : (m.key (.ofName name)).toList.head? ≠ some '[' := by
  have hne : m.module.name.toList ≠ [] := ne_nil_of_isIdentifier h.package
  rw [key_of_declares hdeclares, String.append_assoc, String.toList_append,
    List.head?_append_of_ne_nil _ hne]
  exact head?_ne_bracket_of_isIdentifier h.package

end Keys

/-! ## Side by side -/

/-- What is kept of a type when one override of a key is added: the type before, and the type
after. -/
structure Supplied (m : Mapper) (key : String) (entry before after : FieldType) : Prop where
  name_eq : before.name = unresolvedMark ++ key → after.name = entry.name
  repeated_imp : before.name = unresolvedMark ++ key → after.repeated → before.repeated
  repeated_eq : m.overrides.get? key = none → key.toList.head? = some '[' →
    after.repeated = before.repeated

section Supplied

variable {m : Mapper} {key : String} {entry : FieldType}

theorem Supplied.of_eq {before after : FieldType} (h : after = before)
    (hname : before.name ≠ unresolvedMark ++ key) : m.Supplied key entry before after := by
  subst h
  exact ⟨fun h => absurd h hname, fun h => absurd h hname, fun _ _ => rfl⟩

/-- Only the name and whether a type is repeated count. -/
theorem Supplied.congr {before after before' after' : FieldType}
    (h : m.Supplied key entry before after) (hbefore : before'.name = before.name)
    (hafter : after'.name = after.name) (hbeforeRepeated : before'.repeated = before.repeated)
    (hafterRepeated : after'.repeated = after.repeated) :
    m.Supplied key entry before' after' where
  name_eq hname := hafter.trans (h.name_eq (hbefore.symm.trans hname))
  repeated_imp hname := by
    rw [hbeforeRepeated, hafterRepeated]
    exact h.repeated_imp (hbefore.symm.trans hname)
  repeated_eq hget hhead := by
    rw [hbeforeRepeated, hafterRepeated]
    exact h.repeated_eq hget hhead

/-- **A look-up.**  Beside the types that stand in where nothing is found, only an entry of the key
itself makes a difference. -/
theorem supplied_found (hunmarked : m.Unmarked) (hrepeated : ¬entry.repeated) (t : TypeExpr)
    {before after : Resolution}
    (hsame : m.key t = key → key.toList.head? = some '[' → ¬before.type.repeated)
    (hother : m.key t ≠ key → m.Supplied key entry before.type after.type) :
    m.Supplied key entry ((m.overrides.get? (m.key t)).elim before .found).type
      (((m.withOverride key entry).overrides.get? (m.key t)).elim after .found).type := by
  show m.Supplied key entry _
    (((m.overrides.insert key entry).get? (m.key t)).elim after .found).type
  rw [TextMap.get?_insert]
  by_cases hkey : m.key t = key
  · rw [if_pos hkey]
    cases hget : m.overrides.get? (m.key t) with
    | some old =>
        have hname : old.name ≠ unresolvedMark ++ key := hunmarked.name_ne_of_override hget
        refine ⟨fun h => absurd h hname, fun h => absurd h hname, fun hnone => ?_⟩
        rw [← hkey, hget] at hnone
        cases hnone
    | none =>
        refine ⟨fun _ => rfl, fun _ h => absurd h hrepeated, fun _ hhead => ?_⟩
        show entry.repeated = before.type.repeated
        rw [Bool.eq_false_of_not_eq_true hrepeated,
          Bool.eq_false_of_not_eq_true (hsame hkey hhead)]
  · rw [if_neg hkey]
    cases hget : m.overrides.get? (m.key t) with
    | some old => exact .of_eq rfl (hunmarked.name_ne_of_override hget)
    | none => exact hother hkey

theorem supplied_unresolved {t : TypeExpr} (hkey : m.key t ≠ key) :
    m.Supplied key entry (m.unresolved t).type (m.unresolved t).type :=
  .of_eq rfl fun hname => hkey ((String.append_right_inj _).mp hname)

theorem lookUp_eq_elim (m : Mapper) (t : TypeExpr) :
    m.lookUp t = (m.overrides.get? (m.key t)).elim (m.unresolved t) .found := by
  unfold lookUp
  cases m.overrides.get? (m.key t) <;> rfl

theorem supplied_lookUp (hunmarked : m.Unmarked) (hrepeated : ¬entry.repeated) (t : TypeExpr) :
    m.Supplied key entry (m.lookUp t).type ((m.withOverride key entry).lookUp t).type := by
  rw [lookUp_eq_elim, lookUp_eq_elim]
  exact supplied_found hunmarked hrepeated t (fun _ _ => Bool.false_ne_true) supplied_unresolved

/-- The name of an override that is found for a type is not marked, so a type that is marked was not
found. -/
theorem get?_eq_none_of_name_lookUp (hunmarked : m.Unmarked) {t : TypeExpr}
    (hname : (m.lookUp t).type.name = unresolvedMark ++ key) :
    m.key t = key ∧ m.overrides.get? key = none := by
  unfold lookUp at hname
  split at hname
  case h_1 old hget => exact absurd hname (hunmarked.name_ne_of_override hget)
  case h_2 hget =>
    have hkey : m.key t = key := String.append_right_inj _ |>.mp hname
    exact ⟨hkey, hkey ▸ hget⟩

/-! ## Sequences -/

/-- **A sequence.**  Whether the elements are repeated decides what becomes of the whole, and it is
the same before and after where that matters. -/
theorem supplied_sequence (hunmarked : m.Unmarked) (hrepeated : ¬entry.repeated)
    {t element : TypeExpr} (helement : t.element? = some element) {before after : Resolution}
    (ih : m.Supplied key entry before.type after.type) :
    m.Supplied key entry (resolveBy.sequence m t element before).type
      (resolveBy.sequence (m.withOverride key entry) t element after).type := by
  unfold resolveBy.sequence
  by_cases hbyte : element.isByte
  · rw [if_pos hbyte, if_pos hbyte]
    exact .of_eq rfl (name_ne_of_mem_scalarNames (by decide))
  rw [if_neg hbyte, if_neg hbyte]
  have hlookUp : m.Supplied key entry (m.lookUp t).type
      ((m.withOverride key entry).lookUp t).type := supplied_lookUp hunmarked hrepeated t
  by_cases hbefore : before.type.repeated <;> by_cases hafter : after.type.repeated
  · rw [if_pos hbefore, if_pos hafter]
    exact hlookUp
  · -- the whole was looked up before, so its key begins with a bracket
    rw [if_pos hbefore, if_neg hafter]
    have hfirst (hnone : m.overrides.get? key = none) : key.toList.head? ≠ some '[' := by
      intro hhead
      rw [ih.repeated_eq hnone hhead] at hafter
      exact hafter hbefore
    refine ⟨fun hname => ?_, fun hname => ?_, fun hnone hhead => absurd hhead (hfirst hnone)⟩ <;>
    · obtain ⟨hkey, hnone⟩ := get?_eq_none_of_name_lookUp hunmarked hname
      exact absurd (hkey ▸ head?_key_of_element? helement) (hfirst hnone)
  · -- an override within the elements makes them repeated, so they were no placeholder for its key
    rw [if_neg hbefore, if_pos hafter]
    refine ⟨fun hname => ?_, fun _ _ => rfl, fun hnone hhead => ?_⟩
    · exact absurd (ih.repeated_imp hname hafter) hbefore
    · rw [ih.repeated_eq hnone hhead] at hafter
      exact absurd hafter hbefore
  · rw [if_neg hbefore, if_neg hafter]
    exact ⟨ih.name_eq, fun _ _ => rfl, fun _ _ => rfl⟩

/-! ## Names -/

theorem repeated_castTo (name : String) (r : Resolution) :
    (r.castTo name).type.repeated = r.type.repeated := by
  unfold Resolution.castTo
  split <;> rfl

/-- What a name stands for that is neither primitive nor overridden. -/
def meaning (m : Mapper) (follow? : Option (TypeExpr → Resolution)) (name : String) : Resolution :=
  match (m.module.lookup? name).map Declaration.kind, follow? with
  | some (.record _), _ =>
    if Naming.isExported name then .found (m.reference name) else m.unresolved (.ofName name)
  | some (.defined underlying), some follow => (follow underlying).castTo name
  | _, _ => m.unresolved (.ofName name)

theorem resolveBy_name (m : Mapper) (follow? : Option (TypeExpr → Resolution)) {name : String}
    (h : primitive? name = none) :
    m.resolveBy follow? (.named none name) =
      (m.overrides.get? (m.key (.ofName name))).elim (m.meaning follow? name) .found := by
  unfold resolveBy meaning
  rw [h, Option.none_or]
  cases m.overrides.get? (m.key (.ofName name)) <;> rfl

theorem resolveBy_name_of_primitive {follow? : Option (TypeExpr → Resolution)} {name : String}
    {type : FieldType} (h : primitive? name = some type) :
    m.resolveBy follow? (.named none name) = .found type := by
  unfold resolveBy
  rw [h]
  rfl

theorem meaning_of_not_declares {follow? : Option (TypeExpr → Resolution)} {name : String}
    (h : ¬m.module.declares name) : m.meaning follow? name = m.unresolved (.ofName name) := by
  have hlookup : m.module.lookup? name = none := Option.not_isSome_iff_eq_none.mp h
  unfold meaning
  rw [hlookup]
  rfl

/-- How definitions are followed before and after. -/
abbrev SuppliedBy (m : Mapper) (key : String) (entry : FieldType)
    (follow? follow?' : Option (TypeExpr → Resolution)) : Prop :=
  Option.Rel (fun before after => ∀ t, m.Supplied key entry (before t).type (after t).type)
    follow? follow?'

/-- A name of another key. -/
theorem supplied_meaning (hunmarked : m.Unmarked)
    {follow? follow?' : Option (TypeExpr → Resolution)}
    (hfollow : m.SuppliedBy key entry follow? follow?') {name : String}
    (hkey : m.key (.ofName name) ≠ key) :
    m.Supplied key entry (m.meaning follow? name).type
      ((m.withOverride key entry).meaning follow?' name).type := by
  have hunresolved : m.Supplied key entry (m.unresolved (.ofName name)).type
      (m.unresolved (.ofName name)).type := supplied_unresolved hkey
  by_cases hdeclares : m.module.declares name
  · obtain ⟨d, hlookup⟩ := Option.isSome_iff_exists.mp hdeclares
    have hlookup' : (m.withOverride key entry).module.lookup? name = some d := hlookup
    unfold meaning
    rw [hlookup, hlookup', Option.map_some]
    cases d.kind with
    | record fields =>
        dsimp only
        split_ifs
        · exact .of_eq rfl (hunmarked.name_ne_of_declared hlookup)
        · exact hunresolved
    | contract members => exact hunresolved
    | defined underlying =>
        cases hfollow with
        | none => exact hunresolved
        | some hfollow =>
            exact (hfollow underlying).congr (name_castTo ..) (name_castTo ..)
              (repeated_castTo ..) (repeated_castTo ..)
  · have hdeclares' : ¬(m.withOverride key entry).module.declares name := hdeclares
    rw [meaning_of_not_declares hdeclares, meaning_of_not_declares hdeclares']
    exact hunresolved

theorem supplied_name (hunmarked : m.Unmarked) (hnamed : m.module.WellNamed)
    (hrepeated : ¬entry.repeated) {follow? follow?' : Option (TypeExpr → Resolution)}
    (hfollow : m.SuppliedBy key entry follow? follow?') (name : String) :
    m.Supplied key entry (m.resolveBy follow? (.named none name)).type
      ((m.withOverride key entry).resolveBy follow?' (.named none name)).type := by
  cases hprimitive : primitive? name with
  | some type =>
      rw [resolveBy_name_of_primitive hprimitive, resolveBy_name_of_primitive hprimitive]
      exact .of_eq rfl (name_ne_of_mem_scalarNames (scalar_of_primitive hprimitive).1)
  | none =>
      rw [resolveBy_name _ _ hprimitive, resolveBy_name _ _ hprimitive]
      refine supplied_found hunmarked hrepeated (.ofName name) (fun hkey hhead => ?_) fun hkey =>
        supplied_meaning hunmarked hfollow hkey
      have hdeclares : ¬m.module.declares name := fun hdeclares =>
        head?_key_ne_of_declares hnamed hdeclares (hkey ▸ hhead)
      rw [meaning_of_not_declares hdeclares]
      exact Bool.false_ne_true

/-! ## All types -/

theorem supplied_resolveBy (hunmarked : m.Unmarked) (hnamed : m.module.WellNamed)
    (hrepeated : ¬entry.repeated) {follow? follow?' : Option (TypeExpr → Resolution)}
    (hfollow : m.SuppliedBy key entry follow? follow?') (t : TypeExpr) :
    m.Supplied key entry (m.resolveBy follow? t).type
      ((m.withOverride key entry).resolveBy follow?' t).type := by
  induction t with
  | named package? name =>
      cases package? with
      | none => exact supplied_name hunmarked hnamed hrepeated hfollow name
      | some package => exact supplied_lookUp hunmarked hrepeated _
  | pointer target ih => exact ih.congr rfl rfl rfl rfl
  | slice element ih => exact supplied_sequence hunmarked hrepeated rfl ih
  | array length element ih => exact supplied_sequence hunmarked hrepeated rfl ih
  | map keyType value => exact supplied_lookUp hunmarked hrepeated _
  | verbatim text => exact supplied_lookUp hunmarked hrepeated _

theorem supplied_resolveWithin (hunmarked : m.Unmarked) (hnamed : m.module.WellNamed)
    (hrepeated : ¬entry.repeated) (definitions : Nat) (t : TypeExpr) :
    m.Supplied key entry (m.resolveWithin definitions t).type
      ((m.withOverride key entry).resolveWithin definitions t).type := by
  induction definitions generalizing t with
  | zero => exact supplied_resolveBy hunmarked hnamed hrepeated .none t
  | succ definitions ih => exact supplied_resolveBy hunmarked hnamed hrepeated (.some ih) t

/-- **The name of a placeholder is the key to override.**  Whatever a type is made of, an override
of the key that it is a placeholder for puts its own name in place of the placeholder's.  The names
of the package are identifiers, as they are in every package that is read
(`Package.wellNamed_of_ofTexts`). -/
theorem name_resolve_withOverride (hnamed : m.module.WellNamed)
    (hoverrides : ∀ old ∈ m.overrides.values, ¬Resolution.isPlaceholder old)
    (hrepeated : ¬entry.repeated) (hentry : ¬Resolution.isPlaceholder entry) {t : TypeExpr}
    (h : (m.resolve t).type.name = unresolvedMark ++ key) :
    ((m.withOverride key entry).resolve t).type.name = entry.name ∧
      ¬Resolution.isPlaceholder ((m.withOverride key entry).resolve t).type := by
  have hunmarked : m.Unmarked :=
    ⟨hoverrides, fun d hd => point_notMem_of_isIdentifier (hnamed.declarations d hd)⟩
  have hname : ((m.withOverride key entry).resolve t).type.name = entry.name :=
    (supplied_resolveWithin hunmarked hnamed hrepeated maxDefinitions t).name_eq h
  refine ⟨hname, ?_⟩
  rwa [Resolution.isPlaceholder, hname]

end Supplied

end Mapper

/-! ## An example -/

/-- A package with a type that is a sequence of itself. -/
def forest : Module where
  name := "forest"
  declarations := [⟨"Tree", "", "forest.go", ⟨3, 1⟩, .defined (.slice (.ofName "Tree"))⟩]

/-- The definition of a tree is followed until it is given up.  On the way back every second sequence
is one of sequences, and the override is met at each of these. -/
theorem name_resolve_forest :
    forest.WellNamed ∧
      ((mapperFor Options.standard forest).resolve (.pointer (.ofName "Tree"))).type.name =
        unresolvedMark ++ "[]Tree" ∧
      (((mapperFor Options.standard forest).withOverride "[]Tree" (.message "Grove")).resolve
        (.pointer (.ofName "Tree"))).type.name = "Grove" := by
  have hnamed : forest.WellNamed := ⟨by decide +kernel, by decide +kernel⟩
  have hname : ((mapperFor Options.standard forest).resolve (.pointer (.ofName "Tree"))).type.name =
      unresolvedMark ++ "[]Tree" := by
    decide +kernel
  refine ⟨hnamed, hname, ?_⟩
  have hoverrides : ∀ old ∈ (mapperFor Options.standard forest).overrides.values,
      ¬Resolution.isPlaceholder old := by
    decide +kernel
  have hrepeated : ¬(FieldType.message "Grove").repeated := by decide
  have hentry : ¬Resolution.isPlaceholder (FieldType.message "Grove") := by decide
  exact (Mapper.name_resolve_withOverride hnamed hoverrides hrepeated hentry hname).1

end GoSchema.Mapping
