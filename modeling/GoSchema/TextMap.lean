/-!
# Maps keyed by text

A finite map from texts, listed in increasing order of its keys. What is printed of a document is
listed this way, so that the order in which it was entered does not show.
-/

namespace GoSchema

/-- A finite map from texts. -/
structure TextMap (α : Type) where
  entries : List (String × α)
  sorted : entries.Pairwise fun a b => a.1 < b.1

namespace TextMap

variable {α : Type}

/-! ## Sorted lists of entries -/

/-- Enters a value under a key; an entry of the same key is replaced. -/
def insertEntry (key : String) (value : α) : List (String × α) → List (String × α)
  | [] => [(key, value)]
  | entry :: rest =>
    if key < entry.1 then (key, value) :: entry :: rest
    else if key = entry.1 then (key, value) :: rest
    else entry :: insertEntry key value rest

theorem mem_of_mem_insertEntry {key : String} {value : α} {entries : List (String × α)}
    {entry : String × α} (h : entry ∈ insertEntry key value entries) :
    entry = (key, value) ∨ entry ∈ entries := by
  induction entries with
  | nil => simpa [insertEntry] using h
  | cons first rest ih =>
    unfold insertEntry at h
    split at h
    · simpa using h
    · split at h
      · simp only [List.mem_cons] at h ⊢
        exact h.imp_right .inr
      · simp only [List.mem_cons] at h ⊢
        rcases h with h | h
        · exact .inr (.inl h)
        · exact (ih h).imp_right .inr

private theorem lt_of_not_lt_of_ne {a b : String} (hlt : ¬a < b) (hne : a ≠ b) : b < a := by
  by_cases h : b < a
  · exact h
  · exact absurd (String.le_antisymm (String.not_lt.1 h) (String.not_lt.1 hlt)) hne

theorem sorted_insertEntry (key : String) (value : α) {entries : List (String × α)}
    (h : entries.Pairwise fun a b => a.1 < b.1) :
    (insertEntry key value entries).Pairwise fun a b => a.1 < b.1 := by
  induction entries with
  | nil => simp [insertEntry]
  | cons first rest ih =>
    obtain ⟨hfirst, hrest⟩ := List.pairwise_cons.1 h
    unfold insertEntry
    split
    case isTrue hlt =>
      refine List.pairwise_cons.2 ⟨fun entry hmem => ?_, h⟩
      rcases List.mem_cons.1 hmem with rfl | hmem
      · exact hlt
      · exact String.lt_trans hlt (hfirst entry hmem)
    case isFalse hlt =>
      split
      case isTrue heq =>
        exact List.pairwise_cons.2 ⟨fun entry hmem => heq ▸ hfirst entry hmem, hrest⟩
      case isFalse hne =>
        refine List.pairwise_cons.2 ⟨fun entry hmem => ?_, ih hrest⟩
        rcases mem_of_mem_insertEntry hmem with rfl | hmem
        · exact lt_of_not_lt_of_ne hlt hne
        · exact hfirst entry hmem

/-! ## Maps -/

/-- The map without entries. -/
def empty : TextMap α := ⟨[], List.Pairwise.nil⟩

instance : Inhabited (TextMap α) := ⟨empty⟩

/-- Enters a value under a key; an earlier value of the key is replaced. -/
def insert (m : TextMap α) (key : String) (value : α) : TextMap α :=
  ⟨insertEntry key value m.entries, sorted_insertEntry key value m.sorted⟩

/-- The value of a key. -/
def get? (m : TextMap α) (key : String) : Option α := m.entries.lookup key

/-- The keys in increasing order. -/
def keys (m : TextMap α) : List String := m.entries.map (·.1)

/-- The values in increasing order of their keys. -/
def values (m : TextMap α) : List α := m.entries.map (·.2)

/-- How many entries there are. -/
def size (m : TextMap α) : Nat := m.entries.length

/-- The map of some entries; of several entries of one key the last one counts. -/
def ofList (entries : List (String × α)) : TextMap α :=
  entries.foldl (fun m entry => m.insert entry.1 entry.2) empty

/-- Enters all entries of a second map. -/
def merge (m other : TextMap α) : TextMap α :=
  other.entries.foldl (fun m entry => m.insert entry.1 entry.2) m

@[ext] theorem ext {m₁ m₂ : TextMap α} (h : m₁.entries = m₂.entries) : m₁ = m₂ := by
  cases m₁; cases m₂; simp_all

instance [DecidableEq α] : DecidableEq (TextMap α) := fun m₁ m₂ =>
  decidable_of_iff (m₁.entries = m₂.entries) ⟨ext, fun h => h ▸ rfl⟩

instance [Repr α] : Repr (TextMap α) := ⟨fun m n => reprPrec m.entries n⟩

end TextMap

/-- A finite set of texts. -/
abbrev TextSet := TextMap Unit

namespace TextSet

/-- Adds a member. -/
def add (s : TextSet) (member : String) : TextSet := s.insert member ()

/-- The members in increasing order. -/
def toList (s : TextSet) : List String := s.keys

end TextSet

end GoSchema
