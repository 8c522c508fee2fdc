import Mathlib.Data.List.Nodup
import Mathlib.Data.List.Perm.Lattice

/-!
# Lists with distinct names

Declarations, messages and services are kept in lists and found by name.  Where the names are
distinct, what is found under a name is what is in the list, so searches do not depend on the
order of the list.
-/

namespace GoSchema

variable {α : Type} {name : α → String} {l l' : List α}

theorem find?_name_eq_some_iff (h : (l.map name).Nodup) {key : String} {x : α} :
    l.find? (fun y => name y == key) = some x ↔ x ∈ l ∧ name x = key := by
  constructor
  · exact fun hfind => ⟨List.mem_of_find?_eq_some hfind, by simpa using List.find?_some hfind⟩
  · rintro ⟨hmem, rfl⟩
    obtain ⟨y, hfind⟩ := Option.isSome_iff_exists.mp
      (List.find?_isSome (p := fun y => name y == name x) |>.mpr ⟨x, hmem, by simp⟩)
    have hname : name y = name x := by simpa using List.find?_some hfind
    rw [hfind, List.inj_on_of_nodup_map h (List.mem_of_find?_eq_some hfind) hmem hname]

/-- The order of a list with distinct names does not matter for what is found. -/
theorem find?_name_perm (h : (l.map name).Nodup) (hperm : l.Perm l') (key : String) :
    l.find? (fun y => name y == key) = l'.find? (fun y => name y == key) := by
  refine Option.ext fun x => ?_
  rw [find?_name_eq_some_iff h, find?_name_eq_some_iff ((hperm.map name).nodup h), hperm.mem_iff]

theorem filter_name_eq_singleton (h : (l.map name).Nodup) {x : α} (hmem : x ∈ l) :
    l.filter (fun y => name y == name x) = [x] := by
  induction l with
  | nil => cases hmem
  | cons first rest ih =>
      rw [List.map_cons, List.nodup_cons] at h
      by_cases hname : name first = name x
      · have hnone : rest.filter (fun y => name y == name x) = [] :=
          List.filter_eq_nil_iff.mpr fun y hy heq =>
            h.1 (List.mem_map.mpr ⟨y, hy, (beq_iff_eq.mp heq).trans hname.symm⟩)
        rw [List.filter_cons_of_pos (by simpa using hname), hnone]
        rcases List.mem_cons.mp hmem with rfl | hrest
        · rfl
        · exact absurd (List.mem_map.mpr ⟨x, hrest, hname.symm⟩) h.1
      · rw [List.filter_cons_of_neg (by simpa using hname)]
        refine ih h.2 ((List.mem_cons.mp hmem).resolve_left ?_)
        rintro rfl
        exact hname rfl

/-- Entries with distinct keys are looked up under their keys. -/
theorem lookup_eq_some_iff {entries : List (String × α)} (h : (entries.map Prod.fst).Nodup)
    {key : String} {value : α} :
    entries.lookup key = some value ↔ (key, value) ∈ entries := by
  induction entries with
  | nil => simp
  | cons first rest ih =>
      rw [List.map_cons, List.nodup_cons] at h
      rw [List.lookup_cons, List.mem_cons]
      by_cases hkey : key = first.1
      · have hrest : (key, value) ∉ rest := fun hmem =>
          h.1 (List.mem_map.mpr ⟨_, hmem, hkey⟩)
        rw [beq_iff_eq.mpr hkey, or_iff_left hrest, hkey, Prod.ext_iff]
        simp [eq_comm]
      · have hfirst : (key, value) ≠ first := fun heq => hkey (congrArg Prod.fst heq)
        rw [beq_eq_false_iff_ne.mpr hkey, or_iff_right hfirst]
        exact ih h.2

end GoSchema
