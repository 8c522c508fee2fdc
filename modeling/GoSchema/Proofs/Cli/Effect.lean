import GoSchema.Cli.Run
import GoSchema.Proofs.File.Writing
import GoSchema.Proofs.Go.Names
import GoSchema.Proofs.Mapping.Content

/-!
# The effect of a run

A command line reads a tree of files, may write to it, and prints.  Everything that can fail for
another reason than writing comes before the first thing is written or printed: the options, the
sources, and the texts of all documents.  Printing itself comes last and does not fail.  So a run
that fails prints nothing and leaves the tree as it was, unless it could not write, and
`announced_run` says this together with what a run does that succeeds.

What is written is followed file by file (`wrote_of_writeFiles`).  That no file is written over
another one is due to their names: they come from a package clause, from the names of source files,
or from the output that is asked for, and these are plain (`isPlain_documentName`).

Which texts are filters plays no part: nothing is used of `Pattern.parse?` but that it gives a pattern
or none.
-/

namespace GoSchema

open File Generate Mapping

/-! ## What work on a tree comes to -/

namespace Generate.Writing

variable {α β : Type}

/-- What work comes to, apart from what it reports: its result, and the tree that it leaves. -/
def outcome (x : Writing α) (t : Tree) : Except Error α × Tree := (x.run.run t).value

@[simp] theorem outcome_pure (a : α) (t : Tree) : outcome (pure a) t = (.ok a, t) := rfl

@[simp] theorem outcome_throw (e : Error) (t : Tree) :
    (throw e : Writing α).outcome t = (.error e, t) := rfl

@[simp] theorem outcome_lift (x : Except Error α) (t : Tree) :
    (liftM x : Writing α).outcome t = (x, t) := by
  cases x <;> rfl

@[simp] theorem outcome_make (x : Generating α) (t : Tree) :
    (make x).outcome t = (x.run.value, t) := rfl

@[simp] theorem outcome_report (e : Event) (t : Tree) :
    (liftM (Logged.report e) : Writing Unit).outcome t = (.ok (), t) := rfl

@[simp] theorem outcome_get (t : Tree) : (get : Writing Tree).outcome t = (.ok t, t) := rfl

@[simp] theorem outcome_set (new t : Tree) :
    (set new : Writing PUnit).outcome t = (.ok .unit, new) := rfl

theorem outcome_bind (x : Writing α) (f : α → Writing β) (t : Tree) :
    (x >>= f).outcome t =
      match x.outcome t with
      | (.ok a, t') => (f a).outcome t'
      | (.error e, t') => (.error e, t') := by
  unfold outcome
  rw [ExceptT.run_bind, StateT.run_bind, Logged.value_bind]
  rcases (x.run.run t).value with ⟨_ | a, t'⟩ <;> rfl

end Generate.Writing

/-! ## Names of documents -/

namespace Mapping

/-- The name that is chosen for a single document is plain. -/
def Options.NamesPlain (options : Options) : Prop :=
  ∀ name ∈ options.outputName?, Path.IsPlain name

theorem slash_notMem_of_isIdentifier {name : String} (h : Go.isIdentifier name) :
    '/' ∉ name.toList :=
  fun hmem => absurd (Go.isIdentPart_of_mem h hmem) (by decide +kernel)

theorem isPlain_documentName {options : Options} {package : String} {d : Go.Declaration}
    (hoptions : options.NamesPlain) (hpackage : Go.isIdentifier package) :
    Path.IsPlain (documentName options package d) := by
  have hslash := slash_notMem_of_isIdentifier hpackage
  unfold documentName
  split
  · cases houtput : options.outputName? with
    | none => exact Path.isPlain_append_proto hslash
    | some name => exact hoptions name houtput
  · refine Path.isPlain_append_proto ?_
    cases hstem : (Path.ofString d.file).fileStem? with
    | none => exact hslash
    | some stem => exact Path.slash_notMem_of_fileStem? hstem

/-- Texts are given to documents under the names of the documents. -/
theorem map_fst_of_render {docs : Documents} {outputs : List (String × String)}
    (h : render docs = .ok outputs) : outputs.map Prod.fst = docs.keys := by
  unfold render at h
  unfold TextMap.keys
  generalize docs.entries = entries at h
  induction entries generalizing outputs with
  | nil =>
      cases h
      rfl
  | cons entry rest ih =>
      rw [List.mapM_cons, ok_of_bind_iff] at h
      obtain ⟨output, houtput, h⟩ := h
      obtain ⟨outputs, hrest, h⟩ := ok_of_bind_iff.mp h
      cases h
      rw [List.map_cons, List.map_cons, ih hrest]
      dsimp only at houtput
      split at houtput
      · cases houtput
        rfl
      · cases houtput

end Mapping

namespace Generate

theorem render_of_texts {docs : Documents} {outputs : List (String × String)}
    (h : texts docs = .ok outputs) : render docs = .ok outputs := by
  unfold texts at h
  split at h
  · next hrender =>
    cases h
    exact hrender
  · cases h

/-- Documents that are made from paths are those of a package, which is well named. -/
theorem exists_module_of_ofPaths {options : Options} {t : Tree} {paths : List Path}
    {docs : Documents} (h : (ofPaths options t paths).run.value = .ok docs) :
    ∃ module : Go.Module, module.WellNamed ∧ translation options module = .ok docs := by
  obtain ⟨module, hmodule, h⟩ := Logged.ok_of_run_bind_iff.mp h
  refine ⟨module, ?_, ?_⟩
  · unfold Package.ofPaths at hmodule
    split at hmodule
    · cases hmodule
    · split at hmodule
      · cases hmodule
      · exact Package.wellNamed_of_ofTexts hmodule
  · obtain ⟨result, hresult, h⟩ := Logged.ok_of_run_bind_iff.mp h
    have htranslation : translation options module = result := Except.ok.inj hresult
    cases result with
    | error refusal => cases h
    | ok docs' =>
        cases h
        exact htranslation

/-- Documents that are written are plainly named. -/
theorem isPlain_of_mem_keys {options : Options} {t : Tree} {paths : List Path} {docs : Documents}
    (hoptions : options.NamesPlain) (h : (ofPaths options t paths).run.value = .ok docs)
    {name : String} (hname : name ∈ docs.keys) : Path.IsPlain name := by
  obtain ⟨module, hnamed, htranslation⟩ := exists_module_of_ofPaths h
  obtain ⟨d, -, rfl⟩ := (mem_keys_of_translation_eq_ok htranslation name).mp hname
  exact isPlain_documentName hoptions hnamed.package

/-! ## Writing the documents -/

/-- The path that a text goes to below a directory, and the text. -/
def placeIn (directory : Path) (output : String × String) : Path × String :=
  (directory.join (.ofString output.1), output.2)

open Writing

variable {directory : Path} {outputs : List (String × String)} {t t' : Tree} {paths : List Path}

/-- Work whose result is changed in the end. -/
theorem outcome_bind_pure {α β : Type} (x : Writing α) (f : α → β) (t : Tree) :
    (x >>= fun a => pure (f a)).outcome t = (x.outcome t).map (·.map f) id := by
  rw [outcome_bind]
  rcases x.outcome t with ⟨_ | a, t'⟩ <;> rfl

theorem outcome_writeFiles_cons (directory : Path) (output : String × String)
    (rest : List (String × String)) (t : Tree) :
    (writeFiles directory (output :: rest)).outcome t =
      match t.writeText (placeIn directory output).1 output.2 with
      | .error failure => (.error (.writing (placeIn directory output).1.toString failure), t)
      | .ok mid => ((writeFiles directory rest).outcome mid).map
          (·.map ((placeIn directory output).1 :: ·)) id := by
  obtain ⟨name, text⟩ := output
  rw [writeFiles, outcome_bind, outcome_get]
  dsimp only [placeIn]
  cases t.writeText (directory.join (.ofString name)) text with
  | error failure => rfl
  | ok mid =>
      dsimp only
      rw [outcome_bind, outcome_set]
      exact outcome_bind_pure (writeFiles directory rest) _ mid

/-- An empty path is the working directory, which is there. -/
theorem outcome_write (directory : Path) (outputs : List (String × String)) (t : Tree) :
    (write directory outputs).outcome t =
      match if directory.isEmpty then .ok t else t.ensurePath directory with
      | .error failure => (.error (.writing directory.toString failure), t)
      | .ok mid => (writeFiles directory outputs).outcome mid := by
  unfold write
  cases directory.isEmpty with
  | true => rfl
  | false =>
      simp only [Bool.not_false, if_true, outcome_bind, outcome_get, Bool.false_eq_true, if_false]
      cases t.ensurePath directory <;> rfl

/-- **What is written.**  Texts whose names are plain and distinct end up in files of their own, and
nothing else becomes different. -/
theorem wrote_of_writeFiles (hplain : ∀ output ∈ outputs, Path.IsPlain output.1)
    (hdistinct : (outputs.map Prod.fst).Nodup)
    (h : (writeFiles directory outputs).outcome t = (.ok paths, t')) :
    paths = outputs.map (fun output => (placeIn directory output).1) ∧
      Tree.Wrote [] (outputs.map (placeIn directory)) t t' := by
  induction outputs generalizing t paths with
  | nil =>
      cases h
      exact ⟨rfl, Tree.Wrote.refl [] _⟩
  | cons output rest ih =>
      obtain ⟨hname, hrestPlain⟩ := List.forall_mem_cons.mp hplain
      obtain ⟨hfresh, hrestDistinct⟩ := List.nodup_cons.mp hdistinct
      rw [outcome_writeFiles_cons] at h
      split at h
      · cases h
      · next mid hwritten =>
        rcases hmore : (writeFiles directory rest).outcome mid with ⟨_ | more, last⟩
        · rw [hmore] at h
          cases h
        · rw [hmore] at h
          cases h
          obtain ⟨rfl, hwrote⟩ := ih hrestPlain hrestDistinct hmore
          refine ⟨rfl, (Tree.wrote_writeText hwritten).trans hwrote ?_⟩
          -- the files that follow have other names
          refine List.forall_mem_singleton.mpr fun file hfile => ?_
          obtain ⟨other, hother, rfl⟩ := List.mem_map.mp hfile
          refine Tree.apart_join hname (hrestPlain other hother) fun hsame => hfresh ?_
          exact List.mem_map.mpr ⟨other, hother, hsame.symm⟩

theorem wrote_of_write (hplain : ∀ output ∈ outputs, Path.IsPlain output.1)
    (hdistinct : (outputs.map Prod.fst).Nodup)
    (h : (write directory outputs).outcome t = (.ok paths, t')) :
    paths = outputs.map (fun output => (placeIn directory output).1) ∧
      Tree.Wrote directory.ancestors (outputs.map (placeIn directory)) t t' := by
  rw [outcome_write] at h
  split at h
  · cases h
  · next mid hmade =>
    have hdirectories : Tree.Wrote directory.ancestors [] t mid := by
      split at hmade
      · cases hmade
        exact Tree.Wrote.refl _ t
      · exact Tree.wrote_ensureAll hmade
    obtain ⟨hpaths, hfiles⟩ := wrote_of_writeFiles hplain hdistinct h
    exact ⟨hpaths, hdirectories.trans (hfiles.mono (List.nil_subset _)) (List.forall_mem_nil _)⟩

/-- Writing fails for no other reason than that something cannot be written. -/
theorem exists_writing_of_writeFiles {e : Error}
    (h : (writeFiles directory outputs).outcome t = (.error e, t')) :
    ∃ path failure, e = .writing path failure := by
  induction outputs generalizing t with
  | nil => cases h
  | cons output rest ih =>
      rw [outcome_writeFiles_cons] at h
      split at h
      · cases h
        exact ⟨_, _, rfl⟩
      · next mid hwritten =>
        rcases hmore : (writeFiles directory rest).outcome mid with ⟨_ | more, last⟩
        · rw [hmore] at h
          cases h
          exact ih hmore
        · rw [hmore] at h
          cases h

theorem exists_writing_of_write {e : Error}
    (h : (write directory outputs).outcome t = (.error e, t')) :
    ∃ path failure, e = .writing path failure := by
  rw [outcome_write] at h
  split at h
  · cases h
    exact ⟨_, _, rfl⟩
  · exact exists_writing_of_writeFiles h

end Generate

/-! ## Running a command line -/

namespace Cli

open Generate.Writing

theorem namesPlain_of_choose {a : Arguments} {t : Tree} {options : Options}
    (h : a.choose t = .ok options) : options.NamesPlain := by
  have houtput : options.outputName? =
      if a.perFile then none else a.outputPath?.bind Path.fileName? := by
    unfold Arguments.choose at h
    dsimp only at h
    split at h
    · split at h
      · obtain ⟨overrides, -, h⟩ := ok_of_bind_iff.mp h
        cases h
        rfl
      · cases h
        rfl
    · cases h
  intro name hname
  rw [houtput] at hname
  split at hname
  · cases hname
  · obtain ⟨path, hpath, hname⟩ := Option.bind_eq_some_iff.mp hname
    obtain ⟨text, -, rfl⟩ := Option.map_eq_some_iff.mp hpath
    exact Path.isPlain_of_fileName? hname

/-- The texts of the documents that a command line asks for. -/
def Renders (a : Arguments) (t : Tree) (outputs : List (String × String)) : Prop :=
  ∃ options docs, a.choose t = .ok options ∧
    (ofPaths options t (a.inputs.map Path.ofString)).run.value = .ok docs ∧ texts docs = .ok outputs

/-- The names of texts are plain and in their order. -/
theorem Renders.names {a : Arguments} {t : Tree} {outputs : List (String × String)}
    (h : Renders a t outputs) :
    (∀ output ∈ outputs, Path.IsPlain output.1) ∧ (outputs.map Prod.fst).Pairwise (· < ·) := by
  obtain ⟨options, docs, hchoose, hdocs, htexts⟩ := h
  have hkeys := map_fst_of_render (render_of_texts htexts)
  refine ⟨fun output hmem => ?_, hkeys ▸ List.pairwise_map.mpr docs.sorted⟩
  exact isPlain_of_mem_keys (namesPlain_of_choose hchoose) hdocs
    (hkeys ▸ List.mem_map_of_mem hmem)

/-- What is printed of files that were written. -/
def report (paths : List Path) : String :=
  String.join (paths.map fun path => "Generated " ++ path.toString ++ "\n")

namespace Printing

variable {α β : Type}

/-- What work comes to, apart from what it reports: its result, what has been printed after it, and
the tree that it leaves. -/
def outcome (x : Printing α) (text : String) (t : Tree) : Except Error α × String × Tree :=
  let ((result, text'), t') := ((x.run.run text).run t).value
  (result, text', t')

theorem outcome_silently (x : Writing α) (text : String) (t : Tree) :
    (silently x).outcome text t = ((x.outcome t).1, text, (x.outcome t).2) := rfl

@[simp] theorem outcome_lift (x : Except Error α) (text : String) (t : Tree) :
    (liftM x : Printing α).outcome text t = (x, text, t) := by
  cases x <;> rfl

@[simp] theorem outcome_print (s text : String) (t : Tree) :
    (print s).outcome text t = (.ok (), text ++ s, t) := rfl

theorem outcome_bind (x : Printing α) (f : α → Printing β) (text : String) (t : Tree) :
    (x >>= f).outcome text t =
      match x.outcome text t with
      | (.ok a, text', t') => (f a).outcome text' t'
      | (.error e, text', t') => (.error e, text', t') := by
  unfold outcome
  rw [ExceptT.run_bind, StateT.run_bind, StateT.run_bind, Logged.value_bind]
  rcases ((x.run.run text).run t).value with ⟨⟨_ | a, text'⟩, t'⟩ <;> rfl

/-- Printing does not fail, and what is printed stands behind what was printed before. -/
theorem outcome_printAll (texts : List String) (text : String) (t : Tree) :
    (printAll texts).outcome text t = (.ok (), text ++ String.join texts, t) := by
  induction texts generalizing text with
  | nil =>
      rw [String.join_nil, String.append_empty]
      rfl
  | cons s texts ih =>
      have hcons : printAll (s :: texts) = print s >>= fun _ => printAll texts := rfl
      rw [hcons, outcome_bind, outcome_print]
      dsimp only
      rw [ih, String.join_cons, String.append_assoc]

end Printing

/-- What a run comes to: how it ends, what it has printed, and the tree that it leaves. -/
structure Effect where
  result : Except Error Unit
  printed : String
  after : Tree

/-- What a command line does to a tree, when nothing is printed yet. -/
def effect (a : Arguments) (before : Tree) : Effect :=
  let (result, printed, after) := (execute a).outcome "" before
  { result, printed, after }

/-- A run that is done is known by what it has printed. -/
theorem outcome_run (a : Arguments) (before : Tree) :
    (run a).outcome before = ((effect a before).result.map fun _ => (effect a before).printed,
      (effect a before).after) :=
  rfl

/-- A run ends before anything is written, with a failure and nothing printed, or because documents
are only shown; or it has the texts of all documents when it begins to write. -/
theorem effect_cases (a : Arguments) (t : Tree) :
    (∃ e, effect a t = ⟨.error e, "", t⟩) ∨
    (∃ text, effect a t = ⟨.ok (), text, t⟩ ∧ (a.stdout ∨ a.json)) ∨
    ∃ outputs, Renders a t outputs ∧ ¬(a.stdout ∨ a.json) ∧ effect a t =
      match (write a.directory outputs).outcome t with
      | (.ok paths, after) => ⟨.ok (), report paths, after⟩
      | (.error e, after) => ⟨.error e, "", after⟩ := by
  rw [effect, execute, Printing.outcome_bind, Printing.outcome_silently, outcome_get]
  dsimp only
  rw [Printing.outcome_bind, Printing.outcome_lift]
  -- nothing is written or printed before the options, the documents and their texts are there
  cases hchoose : a.choose t with
  | error e => exact .inl ⟨e, rfl⟩
  | ok options =>
      dsimp only
      rw [Printing.outcome_bind, Printing.outcome_silently, outcome_make]
      cases hdocs : (ofPaths options t (a.inputs.map Path.ofString)).run.value with
      | error e => exact .inl ⟨e, rfl⟩
      | ok docs =>
          dsimp only
          cases hjson : a.json with
          | true =>
              rw [if_pos rfl, Printing.outcome_printAll]
              exact .inr (.inl ⟨_, rfl, .inr rfl⟩)
          | false =>
              rw [if_neg Bool.false_ne_true, Printing.outcome_bind, Printing.outcome_lift]
              cases htexts : texts docs with
              | error e => exact .inl ⟨e, rfl⟩
              | ok outputs =>
                  dsimp only
                  cases hstdout : a.stdout with
                  | true =>
                      rw [if_pos rfl, Printing.outcome_print]
                      exact .inr (.inl ⟨_, rfl, .inl rfl⟩)
                  | false =>
                      have hrenders : Renders a t outputs :=
                        ⟨options, docs, hchoose, hdocs, htexts⟩
                      refine .inr (.inr ⟨outputs, hrenders, by simp, ?_⟩)
                      rw [if_neg Bool.false_ne_true, Printing.outcome_bind,
                        Printing.outcome_silently]
                      rcases (write a.directory outputs).outcome t with ⟨_ | paths, after⟩
                      · rfl
                      · dsimp only
                        rw [Printing.outcome_printAll, String.empty_append]
                        rfl

/-- The effect that is announced of a run on a tree. -/
structure Announced (a : Arguments) (before : Tree) (done : Effect) : Prop where
  /-- Nothing is changed unless the texts of all documents are there to be written. -/
  begun : done.after ≠ before → ¬(a.stdout ∨ a.json) ∧ ∃ outputs, Renders a before outputs
  /-- A run that fails prints nothing and changes nothing, unless there is something that cannot be
  written. -/
  failing : ∀ e, done.result = .error e →
    done.printed = "" ∧ ((∀ path failure, e ≠ .writing path failure) → done.after = before)
  /-- A run that shows its documents changes nothing. -/
  showing : done.result = .ok () → a.stdout ∨ a.json → done.after = before
  /-- Any other run writes the texts of its documents under their names, and reports their paths. -/
  writing : done.result = .ok () → ¬(a.stdout ∨ a.json) → ∃ outputs,
    Renders a before outputs ∧ (outputs.map Prod.fst).Pairwise (· < ·) ∧
      Tree.Wrote a.directory.ancestors (outputs.map (placeIn a.directory)) before done.after ∧
        done.printed = report (outputs.map fun output => (placeIn a.directory output).1)

/-- **Every run has the effect that is announced of it.**  A run that fails for another reason than
writing leaves the files as they were and prints nothing; a run that shows its documents leaves the
files as they were; and a run that writes them leaves exactly their texts under their names in the
output directory, and prints exactly the paths of these files, in the order of their names. -/
theorem announced_run (a : Arguments) (before : Tree) :
    Announced a before (effect a before) ∧
      (run a).outcome before = ((effect a before).result.map fun _ => (effect a before).printed,
        (effect a before).after) := by
  refine ⟨?_, outcome_run a before⟩
  rcases effect_cases a before with
    ⟨e, hfails⟩ | ⟨text, hshows, hshown⟩ | ⟨outputs, hrenders, hwrites, hrun⟩
  · rw [hfails]
    exact ⟨fun hne => absurd rfl hne, fun _ _ => ⟨rfl, fun _ => rfl⟩, nofun, nofun⟩
  · rw [hshows]
    exact ⟨fun hne => absurd rfl hne, nofun, fun _ _ => rfl, fun _ hwrites => absurd hshown hwrites⟩
  · obtain ⟨hplain, hsorted⟩ := hrenders.names
    rw [hrun]
    rcases hwrite : (write a.directory outputs).outcome before with ⟨e | paths, after⟩
    · obtain ⟨path, failure, rfl⟩ := exists_writing_of_write hwrite
      refine ⟨fun _ => ⟨hwrites, outputs, hrenders⟩, ?_, nofun, nofun⟩
      rintro _ ⟨⟩
      exact ⟨rfl, fun hother => absurd rfl (hother path failure)⟩
    · obtain ⟨rfl, hwrote⟩ := wrote_of_write hplain (hsorted.imp String.ne_of_lt) hwrite
      exact ⟨fun _ => ⟨hwrites, outputs, hrenders⟩, nofun,
        fun _ hshows => absurd hshows hwrites,
        fun _ _ => ⟨outputs, hrenders, hsorted, hwrote, rfl⟩⟩

/-- A directory with a source file. -/
def widgets : Tree :=
  (Tree.bare ["home"]).add (.ofString "widget.go")
    (.file "package shop\n\ntype Widget struct \x7b\n\tName string\n\x7d\n".toUTF8)

/-- A command line that asks for a document in a directory of its own. -/
def toApi : Arguments := { Arguments.initial with inputs := ["."], output? := some "gen/api.proto" }

/-- The directory is made, the document is written into it, and the run tells so. -/
theorem announced_run_widgets :
    Announced toApi widgets (effect toApi widgets) ∧
      (effect toApi widgets).result = .ok () ∧
      (effect toApi widgets).printed = "Generated gen/api.proto\n" ∧
      (effect toApi widgets).after.readText (.ofString "gen/api.proto") =
        .ok ("syntax = \"proto3\";\npackage shop;\n\n" ++
          "message Widget \x7b\n  string name = 1;\n\x7d\n") :=
  ⟨(announced_run toApi widgets).1, by decide +kernel, by decide +kernel, by decide +kernel⟩

end Cli

end GoSchema
