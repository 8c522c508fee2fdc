import GoSchema.Proofs.Go.Names

/-!
# Files under other names

The name of a file is no part of its text.  All that reading makes of it is a mark on the
declarations of the file and on the events that are reported.  So a package that is read from files
under other names is the same package with other marks (`ofTexts_map_iff`): it is read, or refused,
just as before.

Names are given by a function on the names that the files have.  A declaration is marked with the
name of its own file and with no other, so this is the most general way to rename them.
-/

namespace GoSchema.Go

/-- The declaration with its file under another name. -/
def Declaration.relocate (f : String → String) (d : Declaration) : Declaration :=
  { d with file := f d.file }

/-- The declarations of a file that has another name. -/
def File.relocate (f : String → String) (file : File) : File :=
  { file with declarations := file.declarations.map (Declaration.relocate f) }

/-- The package with its files under other names. -/
def Module.relocate (f : String → String) (module : Module) : Module :=
  { module with declarations := module.declarations.map (Declaration.relocate f) }

/-! ## Reading a file -/

namespace Cursor

theorem value_parseDeclaration_relocate (f : String → String) (c : Cursor) (file docs : String) :
    (c.parseDeclaration (f file) docs).value =
      Prod.map (Option.map (Declaration.relocate f)) id <$>
        (c.parseDeclaration file docs).value := by
  rw [value_parseDeclaration_eq, value_parseDeclaration_eq, map_bind]
  refine bind_congr fun ⟨name, d, hd⟩ => ?_
  dsimp only
  split
  · -- a declaration with type parameters is passed over
    simp only [map_bind]
    rfl
  · rw [map_bind]
    refine bind_congr fun ⟨kind?, e, he⟩ => ?_
    cases kind? <;> rfl

theorem value_parseGroup_relocate (f : String → String) (c : Cursor) (file : String) :
    (c.parseGroup (f file)).value =
      Prod.map (List.map (Declaration.relocate f)) id <$> (c.parseGroup file).value := by
  rw [parseGroup, parseGroup.eq_1 file]
  dsimp only
  split
  · rfl
  · split
    · rfl
    · simp only [Reading.value_bind, map_bind]
      rw [value_parseDeclaration_relocate, bind_map_left]
      refine bind_congr fun ⟨declaration?, e, he⟩ => ?_
      have he := later_of_skipTrivia he
      dsimp only [Prod.map, id]
      rw [value_parseGroup_relocate f e file, bind_map_left]
      refine bind_congr fun ⟨declarations, g, hg⟩ => ?_
      cases declaration? <;> simp
termination_by c.left

theorem value_parseTypes_relocate (f : String → String) (c : Cursor) (file : String) (line : Nat) :
    (c.parseTypes (f file) line).value =
      Prod.map (List.map (Declaration.relocate f)) id <$> (c.parseTypes file line).value := by
  unfold parseTypes
  split
  · simp only [Reading.value_bind, map_bind]
    rw [value_parseGroup_relocate, bind_map_left]
    rfl
  · simp only [Reading.value_bind, map_bind]
    rw [value_parseDeclaration_relocate, bind_map_left]
    refine bind_congr fun ⟨declaration?, e, he⟩ => ?_
    cases declaration? <;> rfl

theorem value_parseRest_relocate (f : String → String) (c : Cursor) (file : String)
    (package? : Option String) :
    (c.parseRest (f file) package?).value =
      Prod.map id (List.map (Declaration.relocate f)) <$> (c.parseRest file package?).value := by
  rw [parseRest, parseRest.eq_1 file]
  split
  · rfl
  · next t d hd hnext =>
    have hd := later_of_skipTrivia hd
    split
    · simp only [Reading.value_bind, Reading.value_liftM, map_bind]
      refine bind_congr fun ⟨name, e, he⟩ => ?_
      have he : e.forget.left < c.left := later_trans he hd
      exact value_parseRest_relocate f e.forget file _
    · split
      · simp only [Reading.value_bind, map_bind]
        rw [value_parseTypes_relocate, bind_map_left]
        refine bind_congr fun ⟨declarations, e, he⟩ => ?_
        have he : e.left < c.left := later_of_within he hd
        dsimp only [Prod.map, id]
        rw [value_parseRest_relocate f e file, bind_map_left]
        refine bind_congr fun ⟨package?, more⟩ => ?_
        simp
      · split
        · simp only [Reading.value_bind, Reading.value_liftM, map_bind]
          refine bind_congr fun ⟨e, he⟩ => ?_
          have he : e.forget.left < c.left := later_of_within he hd
          exact value_parseRest_relocate f e.forget file _
        · split
          · simp only [Reading.value_bind, Reading.value_liftM, map_bind]
            refine bind_congr fun ⟨e, he⟩ => ?_
            have he : e.forget.left < c.left := later_of_within he hd
            exact value_parseRest_relocate f e.forget file _
          · rfl
termination_by c.left

end Cursor

/-- A file under another name is read, or refused, like before. -/
theorem File.value_ofText_relocate (f : String → String) (file text : String) :
    (File.ofText (f file) text).value =
      (File.ofText file text).value.map (File.relocate f) := by
  show _ = File.relocate f <$> _
  unfold ofText ofTokens
  simp only [Reading.value_bind, Reading.value_liftM, map_bind]
  refine bind_congr fun tokens => ?_
  rw [Cursor.value_parseRest_relocate, bind_map_left]
  refine bind_congr fun ⟨package?, declarations⟩ => ?_
  cases package? <;> rfl

end GoSchema.Go

namespace GoSchema.Package

open Go

/-! ## Reading a package -/

theorem readFile_eq_ok_iff {name text : String} {file : Go.File} :
    (readFile name text).run.value = .ok file ↔ (Go.File.ofText name text).value = .ok file := by
  refine ⟨ofText_of_readFile, fun h => Logged.ok_of_run_bind_iff.mpr ⟨.ok file, ?_, rfl⟩⟩
  exact congrArg Except.ok h

/-- What is read last is reported first. -/
theorem report_bind_eq_ok_iff {α β : Type} {e : Event} {x : Loading α} {g : α → β} {b : β} :
    (do liftM (Logged.report e); return g (← x) : Loading β).run.value = .ok b ↔
      ∃ a, x.run.value = .ok a ∧ g a = b := by
  constructor
  · intro h
    obtain ⟨-, -, h⟩ := Logged.ok_of_run_bind_iff.mp h
    obtain ⟨a, ha, h⟩ := Logged.ok_of_run_bind_iff.mp h
    exact ⟨a, ha, Except.ok.inj h⟩
  · rintro ⟨a, ha, rfl⟩
    exact Logged.ok_of_run_bind_iff.mpr ⟨(), rfl, Logged.ok_of_run_bind_iff.mpr ⟨a, ha, rfl⟩⟩

/-- A file is among the others of a package when it names the same package. -/
theorem readMore_cons_eq_ok_iff {package first name text : String} {rest : List (String × String)}
    {declarations : List Declaration} :
    (readMore package first ((name, text) :: rest)).run.value = .ok declarations ↔
      ∃ file : Go.File, (Go.File.ofText name text).value = .ok file ∧ file.package = package ∧
        ∃ more, (readMore package first rest).run.value = .ok more ∧
          file.declarations ++ more = declarations := by
  rw [readMore, Logged.ok_of_run_bind_iff]
  simp only [readFile_eq_ok_iff]
  refine exists_congr fun file => and_congr_right fun _ => ?_
  split
  · next hne =>
    refine iff_of_false (fun h => ?_) fun h => hne h.1
    cases h
  · next heq =>
    rw [and_iff_right (not_ne_iff.mp heq)]
    exact report_bind_eq_ok_iff

theorem ofTexts_cons_eq_ok_iff {name text : String} {rest : List (String × String)}
    {module : Module} :
    (ofTexts ((name, text) :: rest)).run.value = .ok module ↔
      ∃ file : Go.File, (Go.File.ofText name text).value = .ok file ∧
        ∃ more, (readMore file.package name rest).run.value = .ok more ∧
          ⟨file.package, file.declarations ++ more⟩ = module := by
  rw [ofTexts, Logged.ok_of_run_bind_iff]
  simp only [readFile_eq_ok_iff]
  exact exists_congr fun file => and_congr_right fun _ => report_bind_eq_ok_iff

theorem readMore_relocate_iff (f : String → String) (first : String) {package first' : String}
    {texts : List (String × String)} {declarations' : List Declaration} :
    (readMore package first' (texts.map (Prod.map f id))).run.value = .ok declarations' ↔
      ∃ declarations, (readMore package first texts).run.value = .ok declarations ∧
        declarations.map (Declaration.relocate f) = declarations' := by
  induction texts generalizing declarations' with
  | nil => simp [readMore]
  | cons text rest ih =>
      obtain ⟨name, text⟩ := text
      rw [List.map_cons, Prod.map_apply, readMore_cons_eq_ok_iff]
      simp only [readMore_cons_eq_ok_iff, File.value_ofText_relocate, ok_of_map_iff, ih]
      constructor
      · rintro ⟨_, ⟨file, hfile, rfl⟩, hpackage, _, ⟨more, hmore, rfl⟩, rfl⟩
        exact ⟨_, ⟨file, hfile, hpackage, more, hmore, rfl⟩, List.map_append⟩
      · rintro ⟨_, ⟨file, hfile, hpackage, more, hmore, rfl⟩, rfl⟩
        exact ⟨_, ⟨file, hfile, rfl⟩, hpackage, _, ⟨more, hmore, rfl⟩, List.map_append.symm⟩

/-- **Files under other names.**  A package is read from files under other names exactly when it is
read from them under their own, and its declarations are then marked with the other names. -/
theorem ofTexts_relocate_iff (f : String → String) {texts : List (String × String)}
    {module' : Module} :
    (ofTexts (texts.map (Prod.map f id))).run.value = .ok module' ↔
      ∃ module, (ofTexts texts).run.value = .ok module ∧ module.relocate f = module' := by
  cases texts with
  | nil => exact iff_of_false nofun nofun
  | cons text rest =>
      obtain ⟨name, text⟩ := text
      rw [List.map_cons, Prod.map_apply, ofTexts_cons_eq_ok_iff]
      simp only [ofTexts_cons_eq_ok_iff, File.value_ofText_relocate, ok_of_map_iff,
        readMore_relocate_iff f name]
      constructor
      · rintro ⟨_, ⟨file, hfile, rfl⟩, _, ⟨more, hmore, rfl⟩, rfl⟩
        refine ⟨_, ⟨file, hfile, more, hmore, rfl⟩, ?_⟩
        exact congrArg (Go.Module.mk file.package) List.map_append
      · rintro ⟨_, ⟨file, hfile, more, hmore, rfl⟩, rfl⟩
        refine ⟨_, ⟨file, hfile, rfl⟩, _, ⟨more, hmore, rfl⟩, ?_⟩
        exact congrArg (Go.Module.mk file.package) List.map_append.symm

end GoSchema.Package
