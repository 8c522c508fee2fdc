import GoSchema.File.Tree
import GoSchema.Proofs.File.Path

/-!
# What writing changes

Directories are made and files are written one after the other, and every path is walked anew in
the tree of that moment.  What carries over from one tree to the next is that directories stay
directories (`Keeps`): a path that led somewhere still leads there (`Keeps.locate`).

`Wrote` says that a tree holds some files, and that everything else is as it was before, apart from
directories that were missing.  It holds for each single step, and steps add up as long as no file
is written over another one (`Wrote.trans`).  Files of different names below one directory are
never written over each other (`apart_join`).
-/

namespace GoSchema.File

namespace Tree

variable {t t' t'' : Tree} {p : Path}

/-! ## Entries -/

theorem at?_nil (t : Tree) : t.at? [] = some .directory := rfl

theorem at?_of_ne_nil (t : Tree) {trail : Trail} (h : trail ≠ []) :
    t.at? trail = t.entries.lookup trail := by
  rw [at?, if_neg (by simpa using h)]

theorem lookup_filter_ne {entries : List (Trail × Entry)} {trail other : Trail}
    (h : other ≠ trail) :
    (entries.filter fun e => e.1 != trail).lookup other = entries.lookup other := by
  induction entries with
  | nil => rfl
  | cons first rest ih =>
      by_cases hfirst : first.1 = trail
      · have hother : (other == first.1) = false := beq_eq_false_iff_ne.mpr (hfirst ▸ h)
        rw [List.filter_cons_of_neg (by simp [hfirst]), ih, List.lookup_cons, hother]
      · rw [List.filter_cons_of_pos (by simp [hfirst]), List.lookup_cons, List.lookup_cons, ih]

theorem at?_put (t : Tree) {trail : Trail} (h : trail ≠ []) (entry : Entry) (other : Trail) :
    (t.put trail entry).at? other = if other = trail then some entry else t.at? other := by
  by_cases hnil : other = []
  · rw [hnil, at?_nil, at?_nil, if_neg (Ne.symm h)]
  · rw [at?_of_ne_nil _ hnil, at?_of_ne_nil _ hnil, put, List.lookup_append]
    by_cases hother : other = trail
    · have hnone : (t.entries.filter fun e => e.1 != trail).lookup trail = none := by
        rw [List.lookup_eq_none_iff]
        intro e he
        have hne : e.1 ≠ trail := bne_iff_ne.mp (List.mem_filter.mp he).2
        exact bne_iff_ne.mpr (Ne.symm hne)
      rw [if_pos hother, hother, hnone]
      simp
    · rw [if_neg hother, lookup_filter_ne hother]
      simp [List.lookup_cons, beq_eq_false_iff_ne.mpr hother]

/-! ## Walking -/

/-- The target at a trail. -/
def target (t : Tree) (trail : Trail) : Target :=
  match t.at? trail with
  | some entry => .present trail entry
  | none => .free trail

theorem target_of_at? {trail : Trail} {entry : Entry} (h : t.at? trail = some entry) :
    t.target trail = .present trail entry := by
  rw [target, h]

theorem at?_of_target_eq_present {trail trail' : Trail} {entry : Entry}
    (h : t.target trail = .present trail' entry) : trail = trail' ∧ t.at? trail = some entry := by
  unfold target at h
  split at h
  · next hat =>
    cases h
    exact ⟨rfl, hat⟩
  · cases h

theorem at?_of_target_eq_free {trail trail' : Trail} (h : t.target trail = .free trail') :
    trail = trail' ∧ t.at? trail = none := by
  unfold target at h
  split at h
  · cases h
  · next hat =>
    cases h
    exact ⟨rfl, hat⟩

theorem walk_nil (t : Tree) (trail : Trail) : t.walk trail [] = .ok (t.target trail) := by
  rw [walk, target]
  cases t.at? trail <;> rfl

/-- Every directory of a tree is one of a later tree with the same working directory. -/
structure Keeps (t t' : Tree) : Prop where
  here_eq : t'.here = t.here
  directory : ∀ trail, t.at? trail = some .directory → t'.at? trail = some .directory

theorem Keeps.refl (t : Tree) : t.Keeps t := ⟨rfl, fun _ h => h⟩

theorem Keeps.trans (h : t.Keeps t') (h' : t'.Keeps t'') : t.Keeps t'' :=
  ⟨h'.here_eq.trans h.here_eq, fun trail hdir => h'.directory trail (h.directory trail hdir)⟩

/-- A walk ends at a trail, at which the later tree is walked too. -/
theorem Keeps.exists_trail_of_walk (h : t.Keeps t') {trail : Trail} {segments : List String}
    {target : Target} (hwalk : t.walk trail segments = .ok target) :
    ∃ last, target = t.target last ∧ t'.walk trail segments = .ok (t'.target last) := by
  induction segments generalizing trail with
  | nil =>
      rw [walk_nil] at hwalk
      exact ⟨trail, (Except.ok.inj hwalk).symm, walk_nil t' trail⟩
  | cons segment rest ih =>
      rw [walk] at hwalk
      split at hwalk
      · cases hwalk
      · cases hwalk
      · next hdir =>
        rw [walk, h.directory trail hdir]
        -- the step that is taken does not depend on the tree
        dsimp only
        split at hwalk <;> exact ih hwalk

theorem Keeps.exists_trail_of_locate (h : t.Keeps t') {target : Target}
    (hlocate : t.locate p = .ok target) :
    ∃ last, target = t.target last ∧ t'.locate p = .ok (t'.target last) := by
  unfold locate at hlocate ⊢
  split at hlocate
  · cases hlocate
  · next hempty =>
    rw [if_neg hempty, h.here_eq]
    exact h.exists_trail_of_walk hlocate

/-- A path to an entry leads to the same trail later. -/
theorem Keeps.locate_of_present (h : t.Keeps t') {trail : Trail} {entry : Entry}
    (hlocate : t.locate p = .ok (.present trail entry)) :
    t.at? trail = some entry ∧ t'.locate p = .ok (t'.target trail) := by
  obtain ⟨last, htarget, hlater⟩ := h.exists_trail_of_locate hlocate
  obtain ⟨rfl, hat⟩ := at?_of_target_eq_present htarget.symm
  exact ⟨hat, hlater⟩

theorem Keeps.locate_of_free (h : t.Keeps t') {trail : Trail}
    (hlocate : t.locate p = .ok (.free trail)) :
    t.at? trail = none ∧ t'.locate p = .ok (t'.target trail) := by
  obtain ⟨last, htarget, hlater⟩ := h.exists_trail_of_locate hlocate
  obtain ⟨rfl, hat⟩ := at?_of_target_eq_free htarget.symm
  exact ⟨hat, hlater⟩

theorem at?_of_locate_eq_present {trail : Trail} {entry : Entry}
    (h : t.locate p = .ok (.present trail entry)) : t.at? trail = some entry :=
  ((Keeps.refl t).locate_of_present h).1

/-- The top of a tree is a directory. -/
theorem ne_nil_of_at? {trail : Trail} (h : t.at? trail ≠ some .directory) : trail ≠ [] := by
  rintro rfl
  exact h (at?_nil t)

theorem keeps_put {trail : Trail} {entry : Entry} (hne : t.at? trail ≠ some .directory) :
    t.Keeps (t.put trail entry) := by
  refine ⟨rfl, fun other hdir => ?_⟩
  have hother : other ≠ trail := fun h => hne (h ▸ hdir)
  rw [at?_put t (ne_nil_of_at? hne), if_neg hother, hdir]

/-! ## Names below a directory -/

/-- A walk to a plain name goes through the directory above it. -/
theorem exists_directory_of_walk_append {trail : Trail} {segments : List String} {name : String}
    (hname : Path.IsPlain name) {target : Target}
    (h : t.walk trail (segments ++ [name]) = .ok target) :
    ∃ above, t.walk trail segments = .ok (.present above .directory) ∧
      target = t.target (above ++ [name]) := by
  induction segments generalizing trail with
  | nil =>
      rw [List.nil_append, walk] at h
      split at h
      · cases h
      · cases h
      · next hdir =>
        rw [hname.first?_eq] at h
        dsimp only at h
        rw [walk_nil] at h
        exact ⟨trail, by rw [walk_nil, target_of_at? hdir], (Except.ok.inj h).symm⟩
  | cons segment rest ih =>
      rw [List.cons_append, walk] at h
      split at h
      · cases h
      · cases h
      · next hdir =>
        rw [walk, hdir]
        dsimp only
        split at h <;> exact ih h

/-- A name below a path is a last segment. -/
theorem exists_join_eq (directory : Path) :
    ∃ rooted segments, ∀ name, directory.join ⟨false, [name]⟩ = ⟨rooted, segments ++ [name]⟩ := by
  unfold Path.join
  by_cases hempty : directory.isEmpty
  · exact ⟨false, [], fun name => by simp [hempty]⟩
  · refine ⟨directory.rooted, if directory.segments.getLast? = some "" then
      directory.segments.dropLast else directory.segments, fun name => ?_⟩
    simp [hempty]

/-- Two paths do not lead to the same entry. -/
def Apart (t : Tree) (p q : Path) : Prop :=
  ∀ trail entry entry', t.locate p = .ok (.present trail entry) →
    t.locate q ≠ .ok (.present trail entry')

/-- Paths to different names below one directory lead to different entries. -/
theorem apart_join {directory : Path} {name name' : String} (hname : Path.IsPlain name)
    (hname' : Path.IsPlain name') (hne : name ≠ name') :
    t.Apart (directory.join (.ofString name)) (directory.join (.ofString name')) := by
  intro trail entry entry' h h'
  obtain ⟨rooted, segments, hjoin⟩ := exists_join_eq directory
  rw [Path.ofString_of_isPlain hname, hjoin] at h
  rw [Path.ofString_of_isPlain hname', hjoin] at h'
  unfold locate at h h'
  split at h
  · cases h
  · split at h'
    · cases h'
    · obtain ⟨above, habove, htarget⟩ := exists_directory_of_walk_append hname h
      obtain ⟨above', habove', htarget'⟩ := exists_directory_of_walk_append hname' h'
      rw [habove] at habove'
      cases habove'
      have htrail := (at?_of_target_eq_present htarget.symm).1
      have htrail' := (at?_of_target_eq_present htarget'.symm).1
      exact hne (List.singleton_inj.mp (List.append_cancel_left (htrail.trans htrail'.symm)))

/-! ## Steps of writing -/

/-- A path leads to a file with a text. -/
def HoldsAt (t : Tree) (file : Path × String) (trail : Trail) : Prop :=
  t.locate file.1 = .ok (.present trail (.file file.2.toUTF8))

/-- The later tree holds some files.  What else is different are directories that some paths lead
to, which were missing before. -/
structure Wrote (directories : List Path) (files : List (Path × String)) (t t' : Tree) : Prop where
  keeps : t.Keeps t'
  holds : ∀ file ∈ files, ∃ trail, t'.HoldsAt file trail
  changed : ∀ trail, t'.at? trail ≠ t.at? trail → (∃ file ∈ files, t'.HoldsAt file trail) ∨
    t.at? trail = none ∧
      ∃ p ∈ directories, t'.locate p.withoutSlashes = .ok (.present trail .directory)

theorem Wrote.refl (directories : List Path) (t : Tree) : Wrote directories [] t t :=
  ⟨Keeps.refl t, List.forall_mem_nil _, fun _ h => absurd rfl h⟩

theorem Wrote.mono {directories directories' : List Path} {files : List (Path × String)}
    (h : Wrote directories files t t') (hsub : directories ⊆ directories') :
    Wrote directories' files t t' :=
  { h with
    changed := fun trail hne => (h.changed trail hne).imp_right fun ⟨hfree, p, hp, hlocate⟩ =>
      ⟨hfree, p, hsub hp, hlocate⟩ }

/-- Steps add up, as long as the later one writes no file over one of the earlier step. -/
theorem Wrote.trans {directories : List Path} {files files' : List (Path × String)}
    (h : Wrote directories files t t') (h' : Wrote directories files' t' t'')
    (hapart : ∀ file ∈ files, ∀ file' ∈ files', t''.Apart file.1 file'.1) :
    Wrote directories (files ++ files') t t'' := by
  refine ⟨h.keeps.trans h'.keeps, fun file hfile => ?_, fun trail hne => ?_⟩
  · rcases List.mem_append.mp hfile with hfile | hfile
    · obtain ⟨trail, hheld⟩ := h.holds file hfile
      obtain ⟨hat, hlater⟩ := h'.keeps.locate_of_present hheld
      by_cases hsame : t''.at? trail = t'.at? trail
      · exact ⟨trail, hlater.trans (by rw [target_of_at? (hsame.trans hat)])⟩
      · -- the later step changed the place of this file
        rcases h'.changed trail hsame with ⟨file', hfile', hover⟩ | ⟨hfree, -⟩
        · have hplace := target_of_at? (at?_of_locate_eq_present hover)
          exact absurd hover (hapart file hfile file' hfile' trail _ _ (hplace ▸ hlater))
        · exact absurd (hat.symm.trans hfree) nofun
    · exact h'.holds file hfile
  · by_cases hlast : t''.at? trail = t'.at? trail
    · -- what is at an unchanged place is found by the same path
      have hlater {q : Path} {entry : Entry} (hq : t'.locate q = .ok (.present trail entry)) :
          t''.locate q = .ok (.present trail entry) := by
        obtain ⟨hat, hlocate⟩ := h'.keeps.locate_of_present hq
        rw [hlocate, target_of_at? (hlast.trans hat)]
      rcases h.changed trail (hlast ▸ hne) with ⟨file, hfile, hheld⟩ | ⟨hfree, p, hp, hlocate⟩
      · exact .inl ⟨file, List.mem_append_left _ hfile, hlater hheld⟩
      · exact .inr ⟨hfree, p, hp, hlater hlocate⟩
    · rcases h'.changed trail hlast with ⟨file, hfile, hheld⟩ | ⟨hfree, hmade⟩
      · exact .inl ⟨file, List.mem_append_right _ hfile, hheld⟩
      · refine .inr ⟨?_, hmade⟩
        by_contra hthere
        -- it would have been there after the first step
        rcases h.changed trail (fun heq => hthere (heq ▸ hfree)) with
          ⟨file, -, hheld⟩ | ⟨hnone, -⟩
        · exact absurd (hfree.symm.trans (at?_of_locate_eq_present hheld)) nofun
        · exact hthere hnone

/-- A new entry where there is no directory changes that place alone. -/
theorem at?_put_of_ne {trail other : Trail} {entry : Entry} (hdir : t.at? trail ≠ some .directory)
    (hne : (t.put trail entry).at? other ≠ t.at? other) : other = trail := by
  by_contra hother
  rw [at?_put t (ne_nil_of_at? hdir), if_neg hother] at hne
  exact hne rfl

theorem at?_put_self {trail : Trail} {entry : Entry} (hdir : t.at? trail ≠ some .directory) :
    (t.put trail entry).at? trail = some entry := by
  rw [at?_put t (ne_nil_of_at? hdir), if_pos rfl]

/-- A text goes to where its path leads, which is no directory, and which the path still leads to
in later trees. -/
theorem exists_place_of_writeText {text : String} (h : t.writeText p text = .ok t') :
    ∃ trail, t.at? trail ≠ some .directory ∧
      (∀ later, t.Keeps later → later.locate p = .ok (later.target trail)) ∧
      t' = t.put trail (.file text.toUTF8) := by
  unfold writeText at h
  split at h
  · cases h
  · next trail content hlocate =>
    split at h
    · next hslash =>
      cases h
      rw [hslash] at hlocate
      refine ⟨trail, ?_, fun later hkeeps => (hkeeps.locate_of_present hlocate).2, rfl⟩
      rw [at?_of_locate_eq_present hlocate]
      nofun
    · cases h
  · next trail hlocate =>
    split at h
    · next hslash =>
      cases h
      rw [hslash] at hlocate
      refine ⟨trail, ?_, fun later hkeeps => (hkeeps.locate_of_free hlocate).2, rfl⟩
      rw [((Keeps.refl t).locate_of_free hlocate).1]
      nofun
    · cases h
  · cases h

theorem wrote_writeText {text : String} (h : t.writeText p text = .ok t') :
    Wrote [] [(p, text)] t t' := by
  obtain ⟨trail, hdir, hlocate, rfl⟩ := exists_place_of_writeText h
  have hholds : (t.put trail (.file text.toUTF8)).HoldsAt (p, text) trail := by
    rw [HoldsAt, hlocate _ (keeps_put hdir), target_of_at? (at?_put_self hdir)]
  refine ⟨keeps_put hdir, List.forall_mem_singleton.mpr ⟨trail, hholds⟩, fun other hne => ?_⟩
  rw [at?_put_of_ne hdir hne]
  exact .inl ⟨_, List.mem_singleton_self _, hholds⟩

theorem wrote_makeDirectory (h : t.makeDirectory p = .ok t') : Wrote [p] [] t t' := by
  unfold makeDirectory at h
  split at h
  · cases h
  · next trail hlocate =>
    cases h
    have hfree := ((Keeps.refl t).locate_of_free hlocate).1
    have hdir : t.at? trail ≠ some .directory := by rw [hfree]; nofun
    refine ⟨keeps_put hdir, List.forall_mem_nil _, fun other hne => .inr ?_⟩
    rw [at?_put_of_ne hdir hne]
    refine ⟨hfree, p, List.mem_singleton_self p, ?_⟩
    rw [((keeps_put hdir).locate_of_free hlocate).2, target_of_at? (at?_put_self hdir)]
  · cases h

theorem wrote_ensureDirectory (h : t.ensureDirectory p = .ok t') : Wrote [p] [] t t' := by
  unfold ensureDirectory at h
  split at h
  · next hmade =>
    cases h
    exact wrote_makeDirectory hmade
  · split at h
    · cases h
      exact Wrote.refl [p] t
    · cases h

theorem wrote_ensureAll {paths : List Path} (h : t.ensureAll paths = .ok t') :
    Wrote paths [] t t' := by
  induction paths generalizing t t' with
  | nil => cases h
  | cons p above ih =>
      rw [ensureAll] at h
      split at h
      · cases h
        exact Wrote.refl _ t
      · split at h
        · -- the directories above come first
          cases habove : t.ensureAll above with
          | error e =>
              rw [habove] at h
              cases h
          | ok mid =>
              rw [habove] at h
              exact ((ih habove).mono (List.subset_cons_self p above)).trans
                ((wrote_ensureDirectory h).mono (List.cons_subset_cons p (List.nil_subset above)))
                (List.forall_mem_nil _)
        · exact (wrote_ensureDirectory h).mono (List.cons_subset_cons p (List.nil_subset above))

end Tree

end GoSchema.File
