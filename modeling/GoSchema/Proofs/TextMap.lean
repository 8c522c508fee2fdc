import GoSchema.Proofs.Distinct
import GoSchema.TextMap
import Mathlib.Data.List.Sort

/-!
# Looking up keys

A map is known by its look-ups: `ext_get?` says that two maps with the same value under every key
are the same map, entry by entry.  Since the entries are sorted, nothing of the order in which a
map was filled is left in it, and that is what makes the documents of a package independent of the
order of its declarations.

For a set the same holds of its members (`TextSet.ext_mem`).
-/

namespace GoSchema

namespace TextMap

variable {α β : Type}

/-! ## Entries and look-ups -/

private theorem lookup_cons_eq_ite (first : String × α) (rest : List (String × α)) (key : String) :
    (first :: rest).lookup key = if key = first.1 then some first.2 else rest.lookup key := by
  rw [List.lookup_cons]
  by_cases h : key = first.1
  · rw [beq_iff_eq.mpr h, if_pos h]
  · rw [beq_eq_false_iff_ne.mpr h, if_neg h]

theorem lookup_insertEntry (key key' : String) (value : α) (entries : List (String × α)) :
    (insertEntry key value entries).lookup key' =
      if key' = key then some value else entries.lookup key' := by
  induction entries with
  | nil => rw [insertEntry, lookup_cons_eq_ite]
  | cons first rest ih =>
      unfold insertEntry
      by_cases hlt : key < first.1
      · rw [if_pos hlt, lookup_cons_eq_ite]
      · rw [if_neg hlt]
        by_cases heq : key = first.1
        · rw [if_pos heq, lookup_cons_eq_ite, lookup_cons_eq_ite]
          by_cases hkey : key' = key <;> simp [hkey, ← heq]
        · rw [if_neg heq, lookup_cons_eq_ite, lookup_cons_eq_ite, ih]
          by_cases hkey : key' = first.1
          · simp [hkey, Ne.symm heq]
          · simp [hkey]

@[simp] theorem get?_empty (key : String) : (empty : TextMap α).get? key = none := rfl

@[simp] theorem get?_insert (m : TextMap α) (key key' : String) (value : α) :
    (m.insert key value).get? key' = if key' = key then some value else m.get? key' :=
  lookup_insertEntry key key' value m.entries

theorem nodup_keys (m : TextMap α) : m.keys.Nodup := by
  refine List.pairwise_map.mpr (m.sorted.imp ?_)
  exact fun hlt => String.ne_of_lt hlt

theorem mem_entries_iff (m : TextMap α) (key : String) (value : α) :
    (key, value) ∈ m.entries ↔ m.get? key = some value :=
  (lookup_eq_some_iff m.nodup_keys).symm

theorem mem_keys_iff (m : TextMap α) (key : String) : key ∈ m.keys ↔ (m.get? key).isSome := by
  simp only [keys, List.mem_map, Option.isSome_iff_exists, ← mem_entries_iff]
  constructor
  · rintro ⟨⟨key, value⟩, hmem, rfl⟩
    exact ⟨value, hmem⟩
  · rintro ⟨value, hmem⟩
    exact ⟨(key, value), hmem, rfl⟩

theorem mem_values_iff (m : TextMap α) (value : α) :
    value ∈ m.values ↔ ∃ key, m.get? key = some value := by
  simp only [values, List.mem_map, ← mem_entries_iff]
  constructor
  · rintro ⟨⟨key, value⟩, hmem, rfl⟩
    exact ⟨key, hmem⟩
  · rintro ⟨key, hmem⟩
    exact ⟨(key, value), hmem, rfl⟩

/-- A map holds nothing beside its look-ups. -/
theorem ext_get? {m₁ m₂ : TextMap α} (h : ∀ key, m₁.get? key = m₂.get? key) : m₁ = m₂ := by
  have : Std.Antisymm fun a b : String × α => a.1 < b.1 :=
    ⟨fun a b hab hba => absurd (String.lt_trans hab hba) (String.lt_irrefl _)⟩
  have : Std.Irrefl fun a b : String × α => a.1 < b.1 := ⟨fun a => String.lt_irrefl _⟩
  refine ext (List.Pairwise.eq_of_mem_iff m₁.sorted m₂.sorted fun entry => ?_)
  rw [mem_entries_iff m₁ entry.1 entry.2, mem_entries_iff m₂ entry.1 entry.2, h]

/-! ## Many entries -/

/-- Of several entries of one key the last one counts. -/
theorem get?_foldl_insert (entries : List (String × α)) (m : TextMap α) (key : String) :
    (entries.foldl (fun m entry => m.insert entry.1 entry.2) m).get? key =
      (entries.reverse.lookup key).or (m.get? key) := by
  induction entries generalizing m with
  | nil => simp
  | cons first rest ih =>
      rw [List.foldl_cons, ih, get?_insert, List.reverse_cons, List.lookup_append,
        Option.or_assoc, lookup_cons_eq_ite]
      by_cases hkey : key = first.1 <;> simp [hkey]

theorem get?_ofList (entries : List (String × α)) (key : String) :
    (ofList entries).get? key = entries.reverse.lookup key := by
  rw [ofList, get?_foldl_insert, get?_empty, Option.or_none]

/-- The map of a function on some keys. -/
def tabulate (keys : List String) (value : String → α) : TextMap α :=
  ofList (keys.map fun key => (key, value key))

private theorem lookup_map_key (keys : List String) (value : String → α) (key : String) :
    (keys.map fun key => (key, value key)).lookup key =
      if key ∈ keys then some (value key) else none := by
  induction keys with
  | nil => rfl
  | cons first rest ih =>
      rw [List.map_cons, lookup_cons_eq_ite, ih]
      by_cases hkey : key = first <;> simp [hkey]

@[simp] theorem get?_tabulate (keys : List String) (value : String → α) (key : String) :
    (tabulate keys value).get? key = if key ∈ keys then some (value key) else none := by
  rw [tabulate, get?_ofList, ← List.map_reverse, lookup_map_key]
  simp only [List.mem_reverse]

/-! ## Changing values -/

/-- The map with every value changed by a function. -/
def map (f : α → β) (m : TextMap α) : TextMap β :=
  ⟨m.entries.map fun entry => (entry.1, f entry.2), List.pairwise_map.mpr m.sorted⟩

@[simp] theorem get?_map (f : α → β) (m : TextMap α) (key : String) :
    (m.map f).get? key = (m.get? key).map f := by
  show (m.entries.map fun entry => (entry.1, f entry.2)).lookup key = (m.entries.lookup key).map f
  induction m.entries with
  | nil => rfl
  | cons first rest ih =>
      rw [List.map_cons, lookup_cons_eq_ite, lookup_cons_eq_ite, ih]
      by_cases hkey : key = first.1 <;> simp [hkey]

/-- Maps with values under the same keys have the same keys in the same order. -/
theorem keys_eq_of_isSome {m₁ : TextMap α} {m₂ : TextMap β}
    (h : ∀ key, (m₁.get? key).isSome = (m₂.get? key).isSome) : m₁.keys = m₂.keys := by
  have hkeys {γ : Type} (m : TextMap γ) : (m.map fun _ => ()).keys = m.keys := List.map_map
  rw [← hkeys m₁, ← hkeys m₂]
  refine congrArg keys (ext_get? fun key => ?_)
  rw [get?_map, get?_map]
  have hkey := h key
  cases h₁ : m₁.get? key <;> cases h₂ : m₂.get? key <;> simp_all

end TextMap

namespace TextSet

instance : Membership String TextSet := ⟨fun s member => (s.get? member).isSome⟩

instance (s : TextSet) (member : String) : Decidable (member ∈ s) :=
  inferInstanceAs (Decidable ((s.get? member).isSome = true))

theorem mem_iff (s : TextSet) (member : String) : member ∈ s ↔ (s.get? member).isSome := Iff.rfl

@[simp] theorem mem_add (s : TextSet) (member member' : String) :
    member' ∈ s.add member ↔ member' = member ∨ member' ∈ s := by
  rw [mem_iff, mem_iff, add, TextMap.get?_insert]
  by_cases h : member' = member <;> simp [h]

/-- A set holds nothing beside its members. -/
theorem ext_mem {s₁ s₂ : TextSet} (h : ∀ member, member ∈ s₁ ↔ member ∈ s₂) : s₁ = s₂ := by
  refine TextMap.ext_get? fun member => ?_
  have hmember := h member
  rw [mem_iff, mem_iff] at hmember
  cases h₁ : s₁.get? member <;> cases h₂ : s₂.get? member <;> simp_all

end TextSet

end GoSchema
