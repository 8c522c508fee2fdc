import GoSchema.Mapping.Documents
import GoSchema.Proofs.TextMap

/-!
# Where declarations are placed

Selecting and placing look at each declaration by itself.  Where the names of declarations are
distinct, as they are in a package that compiles, looking up a name finds the declaration of that
name and the table of origins says where its record is placed.
-/

namespace GoSchema.Go

/-- No two declarations of a package have the same name. -/
def Module.NamesDistinct (module : Module) : Prop :=
  (module.declarations.map Declaration.name).Nodup

instance (module : Module) : Decidable module.NamesDistinct :=
  inferInstanceAs (Decidable (List.Nodup _))

theorem Module.lookup?_eq_some_iff {module : Module} (h : module.NamesDistinct) {name : String}
    {d : Declaration} : module.lookup? name = some d ↔ d ∈ module.declarations ∧ d.name = name := by
  have hreverse : (module.declarations.reverse.map Declaration.name).Nodup := by
    rw [List.map_reverse]
    exact List.nodup_reverse.mpr h
  rw [lookup?, find?_name_eq_some_iff hreverse, List.mem_reverse]

end GoSchema.Go

namespace GoSchema.Mapping

open Go

/-- A record of a name is placed in a document. -/
def RecordPlaced (placed : Placement) (document name : String) : Prop :=
  ∃ d fields, (d, document) ∈ placed ∧ d.kind = .record fields ∧ d.name = name

variable {options : Options} {module : Module} {placed : Placement} {document name : String}

theorem mem_placement_iff {d : Declaration} :
    (d, document) ∈ placement options module ↔
      (d ∈ module.declarations ∧ isEligible d ∧ options.filter.occursIn d.name) ∧
        documentName options module.name d = document := by
  simp [placement, select, and_assoc]

/-- The pattern that is taken by default lets every declaration pass. -/
theorem occursIn_always (text : String) : Pattern.always.occursIn text := by
  simp [Pattern.occursIn, Pattern.always, Pattern.reach, List.replicate_succ]

theorem nodup_names_placement (options : Options) (h : module.NamesDistinct) :
    ((placement options module).map fun p => p.1.name).Nodup := by
  rw [placement, List.map_map]
  exact h.sublist (List.filter_sublist.map Declaration.name)

/-- The origin that a placed declaration has as a record. -/
private def origin? (p : Declaration × String) : Option (String × String) :=
  match p.1.kind with
  | .record _ => some (p.1.name, p.2)
  | _ => none

private theorem origin?_eq_some_iff {p : Declaration × String} {origin : String × String} :
    origin? p = some origin ↔
      (∃ fields, p.1.kind = .record fields) ∧ p.1.name = origin.1 ∧ p.2 = origin.2 := by
  unfold origin?
  cases p.1.kind <;> simp [Prod.ext_iff]

/-- The origins say where the record of a name is placed. -/
theorem get?_originsOf_eq_some_iff (h : (placed.map fun p => p.1.name).Nodup) :
    (originsOf placed).get? name = some document ↔ RecordPlaced placed document name := by
  have hnodup : ((placed.filterMap origin?).map Prod.fst).Nodup := by
    rw [List.Nodup, List.pairwise_map, List.pairwise_filterMap]
    refine (List.pairwise_map.mp h).imp fun hne origin horigin origin' horigin' heq => hne ?_
    rw [(origin?_eq_some_iff.mp horigin).2.1, (origin?_eq_some_iff.mp horigin').2.1, heq]
  show (TextMap.ofList (placed.filterMap origin?)).get? name = some document ↔ _
  rw [TextMap.get?_ofList, lookup_eq_some_iff (by rwa [List.map_reverse, List.nodup_reverse]),
    List.mem_reverse, List.mem_filterMap]
  simp only [origin?_eq_some_iff]
  constructor
  · rintro ⟨⟨d, _⟩, hplaced, ⟨fields, hkind⟩, hname, rfl⟩
    exact ⟨d, fields, hplaced, hkind, hname⟩
  · rintro ⟨d, fields, hplaced, hkind, hname⟩
    exact ⟨(d, document), hplaced, ⟨fields, hkind⟩, hname, rfl⟩

end GoSchema.Mapping
