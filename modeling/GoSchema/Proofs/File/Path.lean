import GoSchema.File.Path
import GoSchema.Proofs.Text.Lines

/-!
# Names of entries

A plain name is the name of an entry of a directory: it is not blank, has no slash, and is neither
of the points that stand for directories.  Cut as a path it is a single segment, so that below a
directory it leads to one entry, and different names lead to different entries.

The name at the end of a path is plain, and so is any name without a slash and with an extension.
-/

namespace GoSchema.File

namespace Path

/-- The name of an entry of a directory. -/
structure IsPlain (name : String) : Prop where
  slash_notMem : '/' ∉ name.toList
  inner?_eq : inner? name = some (.name name)

theorem inner?_eq_name_iff {segment name : String} :
    inner? segment = some (.name name) ↔
      segment = name ∧ name ≠ "" ∧ name ≠ "." ∧ name ≠ ".." := by
  unfold inner?
  split
  · next h =>
    refine iff_of_false nofun ?_
    rintro ⟨rfl, hempty, hpoint, -⟩
    exact h.elim hempty hpoint
  · split
    · next h =>
      refine iff_of_false nofun ?_
      rintro ⟨rfl, -, -, hup⟩
      exact hup h
    · next hhere hup =>
      rw [Option.some.injEq, Component.name.injEq]
      constructor
      · rintro rfl
        exact ⟨rfl, fun h => hhere (.inl h), fun h => hhere (.inr h), hup⟩
      · exact And.left

theorem IsPlain.ne {name : String} (h : IsPlain name) : name ≠ "" ∧ name ≠ "." ∧ name ≠ ".." :=
  (inner?_eq_name_iff.mp h.inner?_eq).2

theorem IsPlain.first?_eq {name : String} (h : IsPlain name) : first? name = some (.name name) := by
  rw [first?, if_neg h.ne.2.1, h.inner?_eq]

theorem IsPlain.splitOn_eq {name : String} (h : IsPlain name) :
    name.toList.splitOn '/' = [name.toList] := by
  rw [List.splitOn_eq_splitOnP]
  refine List.splitOnP_eq_singleton fun c hc => beq_eq_false_iff_ne.mpr ?_
  rintro rfl
  exact h.slash_notMem hc

theorem ofString_of_isPlain {name : String} (h : IsPlain name) :
    ofString name = ⟨false, [name]⟩ := by
  unfold ofString
  split
  · next hname => exact absurd (hname ▸ List.mem_cons_self) h.slash_notMem
  · rw [h.splitOn_eq, List.map_singleton, String.ofList_toList]

/-! ## The name at the end of a path -/

theorem slash_notMem_of_mem_segments {text segment : String}
    (h : segment ∈ (ofString text).segments) : '/' ∉ segment.toList := by
  have hcut {cs : List Char} (hmem : segment ∈ (cs.splitOn '/').map String.ofList) :
      '/' ∉ segment.toList := by
    obtain ⟨part, hpart, rfl⟩ := List.mem_map.mp hmem
    rw [String.toList_ofList]
    exact fun hslash => Bool.noConfusion (Text.not_of_mem_splitOnP hpart hslash)
  unfold ofString at h
  split at h
  · exact hcut h
  · exact hcut h

theorem mem_segments_of_name_mem_components {p : Path} {name : String}
    (h : .name name ∈ p.components) : name ∈ p.segments ∧ inner? name = some (.name name) := by
  have hinner {segments : List String} (hmem : .name name ∈ segments.filterMap inner?) :
      name ∈ segments ∧ inner? name = some (.name name) := by
    obtain ⟨segment, hsegment, hname⟩ := List.mem_filterMap.mp hmem
    obtain rfl := (inner?_eq_name_iff.mp hname).1
    exact ⟨hsegment, hname⟩
  obtain ⟨_ | _, segments⟩ := p
  · cases segments with
    | nil => cases h
    | cons segment rest =>
        rcases List.mem_append.mp h with h | h
        · have hfirst : first? segment = some (.name name) := Option.mem_toList.mp h
          unfold first? at hfirst
          split at hfirst
          · cases hfirst
          · obtain rfl := (inner?_eq_name_iff.mp hfirst).1
            exact ⟨List.mem_cons_self, hfirst⟩
        · exact (hinner h).imp_left (List.mem_cons_of_mem _)
  · exact hinner ((List.mem_cons.mp h).resolve_left nofun)

theorem isPlain_of_fileName? {text name : String} (h : (ofString text).fileName? = some name) :
    IsPlain name := by
  unfold fileName? at h
  split at h
  · next last hlast =>
    obtain rfl := Option.some.inj h
    obtain ⟨hsegment, hinner⟩ :=
      mem_segments_of_name_mem_components (List.mem_of_getLast? hlast)
    exact ⟨slash_notMem_of_mem_segments hsegment, hinner⟩
  · cases h

theorem fileName?_of_isPlain {name : String} (h : IsPlain name) :
    (ofString name).fileName? = some name := by
  rw [ofString_of_isPlain h, fileName?]
  simp [components, h.first?_eq]

/-- The name at the end of a path that is given by its text, or the text if there is none. -/
def ownName (text : String) : String := (ofString text).fileName?.getD text

/-- The name at the end of a path has its stem. -/
theorem fileStem?_ownName (text : String) :
    (ofString (ownName text)).fileStem? = (ofString text).fileStem? := by
  unfold ownName fileStem?
  cases hname : (ofString text).fileName? with
  | none => rw [Option.getD_none, hname]
  | some name => rw [Option.getD_some, fileName?_of_isPlain (isPlain_of_fileName? hname)]

theorem stemOf_subset (name : String) : (stemOf name).toList ⊆ name.toList := by
  unfold stemOf
  dsimp only
  split
  · exact List.Subset.refl _
  · rw [String.toList_ofList]
    intro c hc
    have hdropped := List.mem_of_mem_drop (List.mem_reverse.mp hc)
    exact List.mem_reverse.mp ((List.dropWhile_sublist _).subset hdropped)

theorem slash_notMem_of_fileStem? {text stem : String} (h : (ofString text).fileStem? = some stem) :
    '/' ∉ stem.toList := by
  obtain ⟨name, hname, rfl⟩ := Option.map_eq_some_iff.mp h
  exact fun hslash => (isPlain_of_fileName? hname).slash_notMem (stemOf_subset name hslash)

/-- A name with the extension of schema documents. -/
theorem isPlain_append_proto {stem : String} (h : '/' ∉ stem.toList) :
    IsPlain (stem ++ ".proto") where
  slash_notMem := by simpa using h
  inner?_eq := by
    have hlong : ∀ short : String, short.length < 6 → stem ++ ".proto" ≠ short := by
      rintro short hshort rfl
      rw [String.length_append, show ".proto".length = 6 by decide] at hshort
      omega
    exact inner?_eq_name_iff.mpr
      ⟨rfl, hlong _ (by decide), hlong _ (by decide), hlong _ (by decide)⟩

end Path

end GoSchema.File
