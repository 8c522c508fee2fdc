import GoSchema.Proofs.Mapping.Assembly

/-!
# The documents of a package

`documents` adds declarations to documents one after the other.  This file turns that run into a
description of its result: each document holds what the declarations placed in it add, in order,
and the run succeeds exactly when all additions can be computed and every document has room for
its own (`translation_eq_ok_iff`).  Different documents have nothing to do with each other.

The run is followed by induction on the declarations from the last one: before a declaration is
added, its document is the one that the declarations before it make, or a new one if there are
none, which is the same with no additions.
-/

namespace GoSchema.Mapping

open Schema Go

/-- What becomes of a package: its documents, or the reason why there are none. -/
def translation (options : Options) (module : Module) : Except Refusal Documents :=
  (documents options module).value

/-! ## What is placed in a document -/

namespace Mapper

/-- What a declaration adds to its document; nothing if that is refused. -/
def added (m : Mapper) (d : Declaration) : List Addition := (m.additions d).toOption.getD []

/-- What the declarations placed in a document add to it. -/
def addedAt (m : Mapper) (placed : Placement) (name : String) : List Addition :=
  (placed.filter fun p => p.2 = name).flatMap fun p => m.added p.1

/-- The additions of all declarations can be computed, and each document has room for its own. -/
structure Accepts (m : Mapper) (placed : Placement) : Prop where
  exists_additions : ∀ p ∈ placed, ∃ additions, m.additions p.1 = .ok additions
  compatible : ∀ name, Compatible (m.addedAt placed name)

/-- The documents of some declarations, made out of new ones. -/
def documentsOf (m : Mapper) (new : String → Document) (placed : Placement) : Documents :=
  .tabulate (placed.map Prod.snd) fun name => assemble (new name) (m.addedAt placed name)

variable {m : Mapper} {d : Declaration} {additions : List Addition} {placed : Placement}

theorem added_of_ok (h : m.additions d = .ok additions) : m.added d = additions := by
  rw [added, h]
  rfl

theorem addedAt_append_singleton (p : Declaration × String) (name : String) :
    m.addedAt (placed ++ [p]) name =
      m.addedAt placed name ++ if p.2 = name then m.added p.1 else [] := by
  unfold addedAt
  rw [List.filter_append, List.flatMap_append]
  by_cases h : p.2 = name <;> simp [h]

/-- Where nothing is placed nothing is added. -/
theorem addedAt_of_notMem {name : String} (h : name ∉ placed.map Prod.snd) :
    m.addedAt placed name = [] := by
  unfold addedAt
  rw [List.filter_eq_nil_iff.mpr, List.flatMap_nil]
  exact fun p hp heq => h (List.mem_map.mpr ⟨p, hp, by simpa using heq⟩)

theorem mem_addedAt_iff {name : String} {a : Addition} :
    a ∈ m.addedAt placed name ↔ ∃ d, (d, name) ∈ placed ∧ a ∈ m.added d := by
  simp only [addedAt, List.mem_flatMap, List.mem_filter, decide_eq_true_eq]
  constructor
  · rintro ⟨⟨d, _⟩, ⟨hplaced, rfl⟩, ha⟩
    exact ⟨d, hplaced, ha⟩
  · rintro ⟨d, hplaced, ha⟩
    exact ⟨(d, name), ⟨hplaced, rfl⟩, ha⟩

theorem Accepts.mem_addedAt_iff (h : m.Accepts placed) {name : String} {a : Addition} :
    a ∈ m.addedAt placed name ↔
      ∃ d additions, (d, name) ∈ placed ∧ m.additions d = .ok additions ∧ a ∈ additions := by
  rw [Mapper.mem_addedAt_iff]
  constructor
  · rintro ⟨d, hplaced, ha⟩
    obtain ⟨additions, hadditions⟩ := h.exists_additions _ hplaced
    exact ⟨d, additions, hplaced, hadditions, added_of_ok hadditions ▸ ha⟩
  · rintro ⟨d, additions, hplaced, hadditions, ha⟩
    exact ⟨d, hplaced, added_of_ok hadditions ▸ ha⟩

/-- The additions of all declarations that are selected can be computed. -/
theorem Accepts.exists_additions_of_mem_select {options : Options} {module : Module}
    (h : m.Accepts (placement options module))
    (hd : d ∈ select options.filter module.declarations) :
    ∃ additions, m.additions d = .ok additions :=
  h.exists_additions (d, _) (List.mem_map_of_mem hd)

theorem accepts_nil : m.Accepts [] := ⟨by simp, fun _ => compatible_nil⟩

theorem accepts_append_singleton_iff {p : Declaration × String} :
    m.Accepts (placed ++ [p]) ↔ m.Accepts placed ∧
      ∃ additions, m.additions p.1 = .ok additions ∧
        Compatible (m.addedAt placed p.2 ++ additions) := by
  constructor
  · rintro ⟨hadditions, hcompatible⟩
    obtain ⟨additions, hok⟩ := hadditions p (List.mem_append_right _ (by simp))
    have hlast := hcompatible p.2
    rw [addedAt_append_singleton, if_pos rfl, added_of_ok hok] at hlast
    refine ⟨⟨fun q hq => hadditions q (List.mem_append_left _ hq), fun name => ?_⟩,
      additions, hok, hlast⟩
    have hname := hcompatible name
    rw [addedAt_append_singleton] at hname
    exact hname.sublist (List.sublist_append_left ..)
  · rintro ⟨⟨hadditions, hcompatible⟩, additions, hok, hlast⟩
    refine ⟨fun q hq => ?_, fun name => ?_⟩
    · rcases List.mem_append.mp hq with hq | hq
      · exact hadditions q hq
      · exact List.mem_singleton.mp hq ▸ ⟨additions, hok⟩
    · rw [addedAt_append_singleton]
      by_cases hname : p.2 = name
      · rw [if_pos hname, added_of_ok hok, ← hname]
        exact hlast
      · rw [if_neg hname, List.append_nil]
        exact hcompatible name

end Mapper

/-! ## Following the run -/

section Run

variable {options : Options} {module : Module} {m : Mapper} {placed : Placement} {docs : Documents}

theorem value_addPlaced_eq_ok_iff {p : Declaration × String} {docs' : Documents} :
    (addPlaced options module m docs p).value = .ok docs' ↔
      ∃ doc', (addDeclaration m p.1).Yields
        ((docs.get? p.2).getD (newDocument options module p.2)) () doc' ∧
          docs' = docs.insert p.2 doc' := by
  unfold addPlaced Building.Yields
  rw [Making.value_bind, Making.value_liftM, ok_of_bind_iff]
  rcases ((addDeclaration m p.1).run.run ((docs.get? p.2).getD
    (newDocument options module p.2))).value with ⟨_ | ⟨⟩, doc'⟩
  · simp
  · simp [eq_comm]

/-- Before a declaration is added, its document holds what was placed in it before. -/
theorem getD_documentsOf (new : String → Document) (name : String)
    (hmessages : (new name).messages = []) (hservices : (new name).services = []) :
    ((m.documentsOf new placed).get? name).getD (new name) =
      assemble (new name) (m.addedAt placed name) := by
  rw [Mapper.documentsOf, TextMap.get?_tabulate]
  split
  · rfl
  case isFalse h =>
    rw [Mapper.addedAt_of_notMem h]
    exact (assemble_nil hmessages hservices).symm

/-- The documents with one more declaration. -/
theorem documentsOf_append_singleton (new : String → Document) {p : Declaration × String}
    {additions : List Addition} (hok : m.additions p.1 = .ok additions) :
    m.documentsOf new (placed ++ [p]) =
      (m.documentsOf new placed).insert p.2
        (assemble (new p.2) (m.addedAt placed p.2 ++ additions)) := by
  refine TextMap.ext_get? fun name => ?_
  rw [TextMap.get?_insert, Mapper.documentsOf, Mapper.documentsOf, TextMap.get?_tabulate,
    TextMap.get?_tabulate, Mapper.addedAt_append_singleton, Mapper.added_of_ok hok, List.map_append,
    List.map_singleton]
  by_cases hname : name = p.2
  · simp [hname]
  · have hmem : name ∈ placed.map Prod.snd ++ [p.2] ↔ name ∈ placed.map Prod.snd := by
      rw [List.mem_append, List.mem_singleton, or_iff_left hname]
    simp only [hmem, if_neg hname, if_neg (Ne.symm hname), List.append_nil]

theorem value_foldlM_addPlaced_eq_ok_iff :
    (placed.foldlM (addPlaced options module m) .empty).value = .ok docs ↔
      m.Accepts placed ∧ docs = m.documentsOf (newDocument options module) placed := by
  induction placed using List.reverseRecOn generalizing docs with
  | nil =>
      rw [List.foldlM_nil, Making.value_pure, and_iff_right Mapper.accepts_nil, Except.ok.injEq]
      exact eq_comm
  | append_singleton placed p ih =>
      rw [List.foldlM_append, Making.value_bind, ok_of_bind_iff,
        Mapper.accepts_append_singleton_iff]
      simp only [ih, List.foldlM_cons, List.foldlM_nil, bind_pure, value_addPlaced_eq_ok_iff,
        yields_addDeclaration_iff]
      -- the document that the declaration finds, and the additions that made it
      have hfound : ((m.documentsOf (newDocument options module) placed).get? p.2).getD
          (newDocument options module p.2) =
            assemble (newDocument options module p.2) (m.addedAt placed p.2) :=
        getD_documentsOf _ _ rfl rfl
      have hadd (h : m.Accepts placed) (additions : List Addition) :
          Addition.addAll? additions (((m.documentsOf (newDocument options module) placed).get?
              p.2).getD (newDocument options module p.2)) =
            Addition.addAll? (m.addedAt placed p.2 ++ additions)
              (newDocument options module p.2) := by
        rw [Addition.addAll?_append, hfound,
          (addAll?_eq_some_iff rfl rfl).mpr ⟨h.compatible p.2, rfl⟩, Option.bind_some]
      constructor
      · rintro ⟨_, ⟨haccepts, rfl⟩, doc', ⟨additions, hok, hyields⟩, rfl⟩
        rw [hadd haccepts, addAll?_eq_some_iff rfl rfl] at hyields
        obtain ⟨hcompatible, rfl⟩ := hyields
        exact ⟨⟨haccepts, additions, hok, hcompatible⟩, (documentsOf_append_singleton _ hok).symm⟩
      · rintro ⟨⟨haccepts, additions, hok, hcompatible⟩, rfl⟩
        refine ⟨_, ⟨haccepts, rfl⟩, _, ⟨additions, hok, ?_⟩, documentsOf_append_singleton _ hok⟩
        rw [hadd haccepts, addAll?_eq_some_iff rfl rfl]
        exact ⟨hcompatible, rfl⟩

end Run

/-- **What becomes of a package.**  There are documents exactly when all additions can be computed
and each document has room for its own, and then they are made of these additions. -/
theorem translation_eq_ok_iff {options : Options} {module : Module} {docs : Documents} :
    translation options module = .ok docs ↔
      (mapperFor options module).Accepts (placement options module) ∧
        docs = (mapperFor options module).documentsOf (newDocument options module)
          (placement options module) := by
  rw [← value_foldlM_addPlaced_eq_ok_iff, translation, documents, Making.value_bind,
    ok_of_bind_iff]
  exact ⟨fun ⟨_, _, h⟩ => h, fun h => ⟨(), rfl, h⟩⟩

end GoSchema.Mapping
