import GoSchema.Package
import GoSchema.Proofs.File.Path
import Mathlib.Data.List.Sort

/-!
# Listing files

A file of the working directory is listed by its name, or by its name with a point and a slash in
front.  Both paths lead to the same file, and both files are in the same directory.  But the point
counts when paths are compared: the two are different paths, and those that begin with a point come
before the others.

So the files that a list stands for are read in a certain order, each path once
(`exists_sources_listing`), and this order is a matter of what is listed, not of how often or where
in the list (`eq_of_mem_iff`).  A list is in order of names when no file that is listed with a
point comes after, or is the same as, one that is listed without.  Then the point makes no
difference either: the names are read in their own order, each once (`map_name_eq`).
-/

namespace GoSchema.File

/-- A file of the working directory, as it is listed. -/
structure Listing where
  name : String
  /-- Whether a point and a slash stand in front of the name. -/
  dotted : Bool
  isPlain : Path.IsPlain name
deriving DecidableEq

namespace Listing

/-- What is written for a listed file. -/
def text (x : Listing) : String := if x.dotted then "./" ++ x.name else x.name

/-- The path of a listed file. -/
def path (x : Listing) : Path := .ofString x.text

/-- The same file, listed by its name alone. -/
def undotted (x : Listing) : Listing := { x with dotted := false }

/-! ## The path of a listed file -/

theorem segments_path (x : Listing) :
    x.path = ⟨false, if x.dotted then [".", x.name] else [x.name]⟩ := by
  unfold path text
  cases x.dotted with
  | false => exact Path.ofString_of_isPlain x.isPlain
  | true =>
      have htext : ("./" ++ x.name).toList = '.' :: '/' :: x.name.toList := String.toList_append
      have hsplit : ('.' :: '/' :: x.name.toList).splitOn '/' = [['.'], x.name.toList] := by
        rw [List.splitOn_eq_splitOnP, List.splitOnP_cons_eq_if_modifyHead,
          List.splitOnP_cons_eq_if_modifyHead, ← List.splitOn_eq_splitOnP, x.isPlain.splitOn_eq]
        rfl
      rw [if_pos rfl, if_pos rfl, Path.ofString, htext]
      show Path.mk false ((('.' :: '/' :: x.name.toList).splitOn '/').map String.ofList) = _
      rw [hsplit, List.map_cons, List.map_singleton, String.ofList_toList]

theorem components_path (x : Listing) :
    x.path.components = if x.dotted then [.here, .name x.name] else [.name x.name] := by
  rw [segments_path]
  unfold Path.components
  cases x.dotted with
  | false => simp [x.isPlain.first?_eq]
  | true => simp [Path.first?, x.isPlain.inner?_eq]

theorem toString_path (x : Listing) : x.path.toString = x.text := by
  rw [segments_path, text]
  unfold Path.toString
  cases x.dotted with
  | false => simp
  | true => simp

@[simp] theorem ownName_text (x : Listing) : Path.ownName x.text = x.name := by
  have hname : x.path.fileName? = some x.name := by
    rw [Path.fileName?, components_path]
    cases x.dotted <;> rfl
  exact congrArg (Option.getD · x.text) hname

/-- All listed files are in one directory. -/
theorem directoryOf_path (x : Listing) : Package.directoryOf x.path = .ofString "." := by
  have hname : (Path.inner? x.name).isNone = false := by rw [x.isPlain.inner?_eq]; rfl
  have hidle : Path.trimmed.dropIdle [x.name] = [x.name] := by
    simp [Path.trimmed.dropIdle, hname]
  unfold Package.directoryOf Path.parent?
  rw [segments_path]
  cases x.dotted with
  | false =>
      have htrimmed : Path.trimmed ⟨false, [x.name]⟩ = [x.name] := by
        unfold Path.trimmed
        split
        · next rest hpoint => exact absurd (List.cons.inj hpoint).1 x.isPlain.ne.2.1
        · exact hidle
      rw [if_neg Bool.false_ne_true, htrimmed]
      rfl
  | true =>
      have htrimmed : Path.trimmed ⟨false, [".", x.name]⟩ = [".", x.name] := by
        show "." :: Path.trimmed.dropIdle [x.name] = _
        rw [hidle]
      rw [if_pos rfl, htrimmed]
      rfl

/-! ## The order of listed files -/

/-- The order in which listed files are read: those with a point first, and then by name. -/
def Before (x y : Listing) : Prop :=
  x.dotted = true ∧ y.dotted = false ∨ x.dotted = y.dotted ∧ x.name < y.name

instance (x y : Listing) : Decidable (x.Before y) :=
  inferInstanceAs (Decidable (_ ∨ _))

theorem ext_iff {x y : Listing} : x = y ↔ x.dotted = y.dotted ∧ x.name = y.name := by
  obtain ⟨name, dotted, _⟩ := x
  obtain ⟨name', dotted', _⟩ := y
  rw [mk.injEq]
  exact and_comm

theorem Before.irrefl (x : Listing) : ¬ x.Before x := by
  rintro (⟨hdotted, hundotted⟩ | ⟨-, hlt⟩)
  · exact absurd (hdotted.symm.trans hundotted) (by decide)
  · exact String.lt_irrefl _ hlt

theorem Before.trans {x y z : Listing} (hxy : x.Before y) (hyz : y.Before z) : x.Before z := by
  rcases hxy with ⟨hx, hy⟩ | ⟨hxy, hlt⟩
  · rcases hyz with ⟨hy', -⟩ | ⟨hyz, -⟩
    · exact absurd (hy'.symm.trans hy) (by decide)
    · exact .inl ⟨hx, hyz ▸ hy⟩
  · rcases hyz with ⟨hy, hz⟩ | ⟨hyz, hlt'⟩
    · exact .inl ⟨hxy ▸ hy, hz⟩
    · exact .inr ⟨hxy.trans hyz, String.lt_trans hlt hlt'⟩

theorem same_path_iff {x y : Listing} : x.path.same y.path ↔ x = y := by
  rw [Path.same, components_path, components_path, beq_iff_eq, ext_iff]
  cases x.dotted <;> cases y.dotted <;> simp

theorem precedes_path_iff {x y : Listing} : x.path.precedes y.path ↔ x.Before y ∨ x = y := by
  have hnames : Path.precedes.go [.name x.name] [.name y.name] ↔
      x.name < y.name ∨ x.name = y.name := by
    simp [Path.precedes.go, Component.before]
  rw [Path.precedes, components_path, components_path, ext_iff, Before]
  cases x.dotted <;> cases y.dotted
  · simpa only [Bool.false_eq_true, if_false, false_and, true_and, false_or] using hnames
  · simp [Path.precedes.go, Component.before, Component.rank]
  · simp [Path.precedes.go, Component.before, Component.rank]
  · simp [Path.precedes.go, Component.before, Component.rank]

theorem precedes_path_total (x y : Listing) :
    (x.path.precedes y.path || y.path.precedes x.path) = true := by
  rw [Bool.or_eq_true, precedes_path_iff, precedes_path_iff]
  have hnames : x.name < y.name ∨ x.name = y.name ∨ y.name < x.name := by
    by_cases h : x.name < y.name
    · exact .inl h
    · by_cases h' : y.name < x.name
      · exact .inr (.inr h')
      · exact .inr (.inl (String.le_antisymm (String.not_lt.mp h') (String.not_lt.mp h)))
  by_cases hdotted : x.dotted = y.dotted
  · rcases hnames with hlt | heq | hgt
    · exact .inl (.inl (.inr ⟨hdotted, hlt⟩))
    · exact .inl (.inr (ext_iff.mpr ⟨hdotted, heq⟩))
    · exact .inr (.inl (.inr ⟨hdotted.symm, hgt⟩))
  · cases hx : x.dotted with
    | true => exact .inl (.inl (.inl ⟨hx, Bool.eq_false_iff.mpr (hx ▸ Ne.symm hdotted)⟩))
    | false => exact .inr (.inl (.inl ⟨Bool.eq_true_of_not_eq_false (hx ▸ Ne.symm hdotted), hx⟩))

/-- Lists in order are the same when the same files are listed in them. -/
theorem eq_of_mem_iff {s s' : List Listing} (hs : s.Pairwise Before) (hs' : s'.Pairwise Before)
    (h : ∀ x, x ∈ s ↔ x ∈ s') : s = s' := by
  have : Std.Antisymm Before := ⟨fun x _ hxy hyx => absurd (hxy.trans hyx) (Before.irrefl x)⟩
  have : Std.Irrefl Before := ⟨Before.irrefl⟩
  exact List.Pairwise.eq_of_mem_iff hs hs' h

/-- Dropping repeats from listed files that are sorted leaves each of them once, in order. -/
theorem exists_dropRepeats_map_path {s : List Listing}
    (h : s.Pairwise fun x y => x.path.precedes y.path) :
    ∃ s' : List Listing, s'.Pairwise Before ∧ (∀ x, x ∈ s' ↔ x ∈ s) ∧
      Package.dropRepeats (s.map path) = s'.map path := by
  induction s with
  | nil => exact ⟨[], .nil, fun _ => Iff.rfl, by rw [List.map_nil, Package.dropRepeats]⟩
  | cons x rest ih =>
      obtain ⟨hx, hrest⟩ := List.pairwise_cons.mp h
      obtain ⟨s', hs', hmem, heq⟩ := ih hrest
      cases rest with
      | nil =>
          refine ⟨[x], List.pairwise_singleton _ _, fun _ => Iff.rfl, ?_⟩
          rw [List.map_singleton, Package.dropRepeats]
      | cons y rest =>
          rw [List.map_cons, List.map_cons, Package.dropRepeats]
          by_cases hxy : x = y
          · refine ⟨s', hs', fun z => ?_, ?_⟩
            · rw [hmem, hxy, List.mem_cons (b := y) (l := y :: rest)]
              exact (or_iff_right_of_imp fun hz => hz ▸ List.mem_cons_self).symm
            · rw [if_pos (same_path_iff.mpr hxy), hxy]
              exact heq
          · refine ⟨x :: s', List.pairwise_cons.mpr ⟨fun z hz => ?_, hs'⟩, fun z => ?_, ?_⟩
            · -- what follows is not before `y`, and `y` is not `x`
              have hbefore : x.Before y :=
                (precedes_path_iff.mp (hx y List.mem_cons_self)).resolve_right hxy
              rcases List.mem_cons.mp ((hmem z).mp hz) with rfl | hz
              · exact hbefore
              · rcases precedes_path_iff.mp ((List.pairwise_cons.mp hrest).1 z hz) with hyz | rfl
                · exact hbefore.trans hyz
                · exact hbefore
            · rw [List.mem_cons, hmem, List.mem_cons (a := z) (b := x)]
            · rw [if_neg (mt same_path_iff.mp hxy)]
              exact congrArg _ heq

/-- No file that is listed with a point comes after one that is listed without, or is the same. -/
def InOrder (l : List Listing) : Prop :=
  ∀ x ∈ l, ∀ y ∈ l, x.dotted = true → y.dotted = false → x.name < y.name

instance (l : List Listing) : Decidable (InOrder l) :=
  inferInstanceAs (Decidable (∀ x ∈ l, ∀ y ∈ l, _))

/-- Two lists name the same files, and the point in front of a name makes no difference: each path
is in both lists, or the lists are in order. -/
def Agree (l l' : List Listing) : Prop :=
  (∀ x, x ∈ l ↔ x ∈ l') ∨
    InOrder l ∧ InOrder l' ∧ ∀ name, name ∈ l.map Listing.name ↔ name ∈ l'.map Listing.name

theorem Agree.mem_map_name_iff {l l' : List Listing} (h : Agree l l') (name : String) :
    name ∈ l.map Listing.name ↔ name ∈ l'.map Listing.name := by
  rcases h with hsame | ⟨-, -, hnames⟩
  · simp only [List.mem_map, hsame]
  · exact hnames name

theorem Agree.eq_nil_iff {l l' : List Listing} (h : Agree l l') : l = [] ↔ l' = [] := by
  rw [← List.map_eq_nil_iff (f := Listing.name), ← List.map_eq_nil_iff (f := Listing.name),
    List.eq_nil_iff_forall_not_mem, List.eq_nil_iff_forall_not_mem]
  simp only [h.mem_map_name_iff]

/-- The names of listed files in order are in order themselves. -/
theorem pairwise_map_name {s : List Listing} (h : s.Pairwise Before) (horder : InOrder s) :
    (s.map Listing.name).Pairwise (· < ·) := by
  refine List.pairwise_map.mpr (h.imp_of_mem fun {x y} hx hy hbefore => ?_)
  rcases hbefore with ⟨hdotted, hundotted⟩ | ⟨-, hlt⟩
  · exact horder x hx y hy hdotted hundotted
  · exact hlt

/-- Lists that agree are read in the same order of names. -/
theorem map_name_eq {l l' s s' : List Listing} (hs : s.Pairwise Before) (hs' : s'.Pairwise Before)
    (hmem : ∀ x, x ∈ s ↔ x ∈ l) (hmem' : ∀ x, x ∈ s' ↔ x ∈ l') (h : Agree l l') :
    s.map Listing.name = s'.map Listing.name := by
  rcases h with hsame | ⟨horder, horder', hnames⟩
  · rw [eq_of_mem_iff hs hs' fun x => by rw [hmem, hmem', hsame]]
  · have : Std.Antisymm fun a b : String => a < b :=
      ⟨fun a b hab hba => absurd (String.lt_trans hab hba) (String.lt_irrefl _)⟩
    have : Std.Irrefl fun a b : String => a < b := ⟨fun a => String.lt_irrefl _⟩
    have horder : InOrder s := fun x hx y hy =>
      horder x ((hmem x).mp hx) y ((hmem y).mp hy)
    have horder' : InOrder s' := fun x hx y hy =>
      horder' x ((hmem' x).mp hx) y ((hmem' y).mp hy)
    refine List.Pairwise.eq_of_mem_iff (pairwise_map_name hs horder) (pairwise_map_name hs' horder')
      fun name => ?_
    have hlisted : name ∈ s.map Listing.name ↔ name ∈ l.map Listing.name := by
      simp only [List.mem_map, hmem]
    have hlisted' : name ∈ s'.map Listing.name ↔ name ∈ l'.map Listing.name := by
      simp only [List.mem_map, hmem']
    rw [hlisted, hlisted', hnames]

/-! ## Reading listed files -/

variable {tree : Tree} {l : List Listing}

/-- The point in front of a name leads nowhere. -/
theorem find_undotted (tree : Tree) (x : Listing) :
    tree.find x.undotted.path = tree.find x.path := by
  have hempty (y : Listing) : y.path.isEmpty = false := by
    rw [Path.isEmpty, toString_path, text]
    cases y.dotted with
    | false => simpa using y.isPlain.ne.1
    | true => simp
  have hwalk : tree.walk tree.here [".", x.name] = tree.walk tree.here [x.name] := by
    conv_lhs => rw [Tree.walk]
    cases hat : tree.at? tree.here with
    | none => simp [Tree.walk, hat]
    | some entry =>
        cases entry with
        | file content => simp [Tree.walk, hat]
        | directory => rfl
  unfold Tree.find Tree.locate
  rw [hempty, hempty, segments_path, segments_path]
  cases hdotted : x.dotted with
  | false => simp [undotted]
  | true => simp [undotted, hwalk]

theorem isFile_path_congr (tree : Tree) {x y : Listing} (h : x.name = y.name) :
    tree.isFile x.path = tree.isFile y.path := by
  have hundotted : x.undotted = y.undotted := ext_iff.mpr ⟨rfl, h⟩
  rw [Tree.isFile, Tree.isFile, ← find_undotted, hundotted, find_undotted]

theorem Agree.isFile_path {l l' : List Listing} (h : Agree l l')
    (hfiles : ∀ x ∈ l, tree.isFile x.path) : ∀ x ∈ l', tree.isFile x.path := by
  intro x hx
  obtain ⟨y, hy, hname⟩ :=
    List.mem_map.mp ((h.mem_map_name_iff x.name).mpr (List.mem_map_of_mem hx))
  rw [isFile_path_congr tree hname.symm]
  exact hfiles y hy

theorem not_isDirectory_of_isFile {p : Path} (h : tree.isFile p) : tree.isDirectory p = false := by
  unfold Tree.isFile at h
  unfold Tree.isDirectory
  split at h
  · next content hfind => rw [hfind]
  · cases h

theorem checkFiles_map_path (hfiles : ∀ x ∈ l, tree.isFile x.path) {directory? : Option Path}
    (hdirectory : ∀ directory ∈ directory?, directory = .ofString ".") :
    Package.checkFiles tree directory? (l.map path) = .ok () := by
  induction l generalizing directory? with
  | nil => rw [List.map_nil, Package.checkFiles.eq_def]
  | cons x rest ih =>
      obtain ⟨hx, hrest⟩ := List.forall_mem_cons.mp hfiles
      rw [List.map_cons, Package.checkFiles.eq_def]
      dsimp only
      rw [hx, if_neg (by decide)]
      cases directory? with
      | none =>
          refine ih hrest fun directory hmem => ?_
          cases hmem
          exact directoryOf_path x
      | some directory =>
          have hsame : directory.same (Package.directoryOf x.path) := by
            rw [directoryOf_path, hdirectory directory rfl, Path.same, beq_self_eq_true]
          dsimp only
          rw [if_pos hsame]
          exact ih hrest hdirectory

/-- Of several files, or of one, each is read itself. -/
theorem sources_map_path (hne : l ≠ []) (hfiles : ∀ x ∈ l, tree.isFile x.path) :
    Package.sources tree (l.map path) = Package.sources.explicit tree (l.map path) := by
  cases l with
  | nil => exact absurd rfl hne
  | cons x rest =>
      cases rest with
      | cons y rest => rfl
      | nil =>
          show (if tree.isDirectory x.path then _ else Package.sources.explicit tree [x.path]) = _
          rw [not_isDirectory_of_isFile (hfiles x List.mem_cons_self), if_neg (by decide)]
          rfl

/-- The files that a list stands for, each path once and in order. -/
theorem exists_sources_listing (hne : l ≠ []) (hfiles : ∀ x ∈ l, tree.isFile x.path) :
    ∃ s : List Listing, s.Pairwise Before ∧ (∀ x, x ∈ s ↔ x ∈ l) ∧
      Package.sources tree (l.map path) = .ok (s.map path) := by
  have hsorted : (l.mergeSort fun x y => x.path.precedes y.path).Pairwise
      fun x y => x.path.precedes y.path := by
    refine List.pairwise_mergeSort (fun x y z hxy hyz => ?_) precedes_path_total l
    rw [precedes_path_iff] at hxy hyz ⊢
    rcases hxy with hxy | rfl
    · rcases hyz with hyz | rfl
      · exact .inl (hxy.trans hyz)
      · exact .inl hxy
    · exact hyz
  obtain ⟨s, hs, hmem, hdrop⟩ := exists_dropRepeats_map_path hsorted
  refine ⟨s, hs, fun x => by rw [hmem, List.mem_mergeSort], ?_⟩
  have hcheck : Package.checkFiles tree none (l.map path) = .ok () :=
    checkFiles_map_path hfiles nofun
  rw [sources_map_path hne hfiles, Package.sources.explicit, hcheck,
    ← List.map_mergeSort (r := fun x y : Listing => x.path.precedes y.path) fun _ _ _ _ => rfl,
    hdrop]
  rfl

theorem sources_listing (hne : l ≠ []) (hfiles : ∀ x ∈ l, tree.isFile x.path) {s : List Listing}
    (hs : s.Pairwise Before) (hmem : ∀ x, x ∈ s ↔ x ∈ l) :
    Package.sources tree (l.map path) = .ok (s.map path) := by
  obtain ⟨s', hs', hmem', hsources⟩ := exists_sources_listing hne hfiles
  rw [hsources, eq_of_mem_iff hs hs' fun x => by rw [hmem, hmem']]

/-- The texts of listed files do not depend on the points in front of their names. -/
theorem readTexts_map_undotted (tree : Tree) (s : List Listing) :
    Package.readTexts tree (s.map fun x => x.undotted.path) =
      (Package.readTexts tree (s.map path)).map (List.map (Prod.map Path.ownName id)) := by
  have hread (x : Listing) : tree.readText x.undotted.path = tree.readText x.path := by
    rw [Tree.readText, Tree.readText, find_undotted]
  have hname (x : Listing) : x.undotted.path.toString = Path.ownName x.path.toString := by
    rw [toString_path, toString_path, ownName_text]
    rfl
  unfold Package.readTexts
  induction s with
  | nil => rfl
  | cons x rest ih =>
      rw [List.map_cons, List.map_cons, List.mapM_cons, List.mapM_cons, ih, hread, hname]
      cases tree.readText x.path with
      | error failure => rfl
      | ok text =>
          generalize (rest.map path).mapM (fun p => do
            return (p.toString, ← tree.readText p) : Path → Except Failure (String × String)) = read
          cases read <;> rfl

end Listing

end GoSchema.File
