import GoSchema.Package
import GoSchema.Proofs.Go.Movement

/-!
# Names of declarations

A Go package and its declarations are named by identifiers.  This matters for the keys of types,
which are put together from names and signs: no identifier begins with a bracket, so the key of a
sequence is never that of a declared name, and no identifier holds a point, so none is marked like a
placeholder.

That a package is well named is true of every package that is read from its texts
(`wellNamed_of_ofTexts`).  Its names are the words of its files, and a word is scanned as a letter
or an underscore and what can follow them.
-/

namespace GoSchema.Go

/-- A letter or an underscore, followed by letters, digits and underscores. -/
def isIdentifier (name : String) : Bool :=
  match name.toList with
  | [] => false
  | c :: rest => Lexeme.isIdentStart c && rest.all Lexeme.isIdentPart

/-- A package whose names are identifiers. -/
structure Module.WellNamed (module : Module) : Prop where
  package : isIdentifier module.name
  declarations : ∀ d ∈ module.declarations, isIdentifier d.name

theorem isIdentPart_of_isIdentStart {c : Char} (h : Lexeme.isIdentStart c) :
    Lexeme.isIdentPart c := by
  simp only [Lexeme.isIdentStart, Bool.or_eq_true] at h
  simp only [Lexeme.isIdentPart, Bool.or_eq_true]
  rcases h with h | h
  · exact Or.inl (Or.inl h)
  · exact Or.inr h

theorem isIdentPart_of_mem {name : String} (h : isIdentifier name) {c : Char}
    (hc : c ∈ name.toList) : Lexeme.isIdentPart c := by
  unfold isIdentifier at h
  split at h
  · cases h
  · next first rest hname =>
    rw [hname] at hc
    rw [Bool.and_eq_true, List.all_eq_true] at h
    rcases List.mem_cons.mp hc with rfl | hc
    · exact isIdentPart_of_isIdentStart h.1
    · exact h.2 c hc

theorem point_notMem_of_isIdentifier {name : String} (h : isIdentifier name) :
    '.' ∉ name.toList := by
  intro hmem
  have hpart := isIdentPart_of_mem h hmem
  exact absurd hpart (by decide +kernel)

theorem head?_ne_bracket_of_isIdentifier {name : String} (h : isIdentifier name) :
    name.toList.head? ≠ some '[' := by
  intro hhead
  have hpart := isIdentPart_of_mem h (List.mem_of_mem_head? hhead)
  exact absurd hpart (by decide +kernel)

theorem ne_nil_of_isIdentifier {name : String} (h : isIdentifier name) : name.toList ≠ [] := by
  intro hnil
  rw [isIdentifier, hnil] at h
  cases h

/-! ## Identifiers among tokens -/

/-- The identifiers among some tokens. -/
def identifiers (tokens : List Token) : List String :=
  (tokens.filter fun t => t.kind == .ident).map Token.text

theorem mem_identifiers_iff {tokens : List Token} {name : String} :
    name ∈ identifiers tokens ↔ ∃ t ∈ tokens, t.kind = .ident ∧ t.text = name := by
  simp [identifiers, and_assoc]

theorem isIdentifier_take {c : Char} {rest : List Char} (h : Lexeme.isIdentStart c) :
    isIdentifier (String.ofList ((c :: rest).take (Lexeme.run Lexeme.isIdentPart rest + 1))) := by
  have htake : rest.take (Lexeme.run Lexeme.isIdentPart rest) =
      rest.takeWhile Lexeme.isIdentPart :=
    (List.prefix_iff_eq_take.mp (List.takeWhile_prefix _)).symm
  have hall : (rest.takeWhile Lexeme.isIdentPart).all Lexeme.isIdentPart := List.all_takeWhile
  rw [List.take_succ_cons, htake, isIdentifier, String.toList_ofList]
  simp [h, hall]

/-- What is scanned as an identifier is one. -/
theorem isIdentifier_of_atStart? {s : List Char} {l : Lexeme} (h : Lexeme.atStart? s = some l)
    (hkind : l.kind? = some .ident) : isIdentifier (String.ofList (s.take l.size)) := by
  simp only [Lexeme.atStart?, Option.or_eq_some_iff] at h
  rcases h with h | ⟨-, h | ⟨-, h | ⟨-, h⟩⟩⟩
  · unfold Lexeme.enclosed? at h
    split at h <;> grind [Option.map_eq_some_iff]
  · obtain ⟨op, -, rfl⟩ := Option.map_eq_some_iff.mp h
    cases hkind
  · unfold Lexeme.pointNumber? at h
    split at h <;> grind
  · unfold Lexeme.simple? at h
    split at h
    · cases h
    · next c rest =>
      by_cases hstart : Lexeme.isIdentStart c
      · rw [if_pos hstart] at h
        cases h
        exact isIdentifier_take hstart
      · -- all other forms make tokens of other kinds
        rw [if_neg hstart] at h
        grind

theorem isIdentifier_of_scanFrom {pos : Position} {s : List Char} {tokens : List Token}
    (h : Token.scanFrom pos s = .ok tokens) : ∀ name ∈ identifiers tokens, isIdentifier name := by
  fun_induction Token.scanFrom pos s generalizing tokens with
  | case1 pos s l hl hshorter text more kind hkind hmore =>
      rename_i ih
      cases h
      intro name hname
      obtain ⟨t, ht, hident, rfl⟩ := mem_identifiers_iff.mp hname
      rcases List.mem_cons.mp ht with rfl | ht
      · exact isIdentifier_of_atStart? hl (hkind.trans (congrArg some hident))
      · exact ih hmore _ (mem_identifiers_iff.mpr ⟨t, ht, hident, rfl⟩)
  | case2 pos s l hl hshorter text hnone =>
      rename_i ih
      exact ih h
  | case3 =>
      cases h
      exact nofun
  | case4 => cases h

/-! ## Names of declarations -/

namespace Cursor

variable {c d : Cursor}

theorem Onward.identifiers_subset (h : c.Onward d) : identifiers d.rest ⊆ identifiers c.rest := by
  intro name hname
  obtain ⟨t, ht, hword⟩ := mem_identifiers_iff.mp hname
  exact mem_identifiers_iff.mpr ⟨t, List.IsSuffix.subset h ht, hword⟩

theorem mem_identifiers_of_expectIdent {t : Token} {d : c.Later} (h : c.expectIdent = .ok (t, d)) :
    t.text ∈ identifiers c.rest := by
  unfold expectIdent at h
  split at h
  · next t d hnext =>
    split at h
    · next hkind =>
      cases h
      exact mem_identifiers_iff.mpr ⟨t, rest_eq_of_next? hnext ▸ List.mem_cons_self, hkind, rfl⟩
    · cases h
  · cases h

theorem mem_identifiers_of_parseDeclaration {file docs : String} {declaration? : Option Declaration}
    {d : c.Later} (h : (c.parseDeclaration file docs).value = .ok (declaration?, d)) :
    ∀ declaration ∈ declaration?, declaration.name ∈ identifiers c.rest := by
  rw [value_parseDeclaration_eq] at h
  obtain ⟨⟨name, e, he⟩, hname, h⟩ := ok_of_bind_iff.mp h
  dsimp only at h
  split at h
  · obtain ⟨f, -, h⟩ := ok_of_bind_iff.mp h
    cases h
    exact nofun
  · obtain ⟨⟨kind?, f, hf⟩, -, h⟩ := ok_of_bind_iff.mp h
    cases h
    intro declaration hdeclaration
    obtain ⟨kind, -, rfl⟩ := Option.map_eq_some_iff.mp hdeclaration
    exact mem_identifiers_of_expectIdent hname

theorem mem_identifiers_of_parseGroup (c : Cursor) {file : String} {declarations : List Declaration}
    {d : c.Later} (h : (c.parseGroup file).value = .ok (declarations, d)) :
    ∀ declaration ∈ declarations, declaration.name ∈ identifiers c.rest := by
  rw [parseGroup] at h
  dsimp only at h
  split at h
  · cases h
    exact nofun
  · split at h
    · cases h
    · simp only [Reading.value_bind] at h
      obtain ⟨⟨declaration?, e, he⟩, hdeclaration, h⟩ := ok_of_bind_iff.mp h
      obtain ⟨⟨more, f, hf⟩, hmore, h⟩ := ok_of_bind_iff.mp h
      cases h
      have he := later_of_skipTrivia he
      have hcd : c.Onward c.skipTrivia.forget := motion_onward.skipTrivia c
      have hce : c.Onward e :=
        hcd.trans ((motion_onward.halts_parseDeclaration _ file _).leads _ hdeclaration)
      intro declaration hmem
      rcases List.mem_append.mp hmem with hmem | hmem
      · exact hcd.identifiers_subset
          (mem_identifiers_of_parseDeclaration hdeclaration declaration (Option.mem_toList.mp hmem))
      · exact hce.identifiers_subset (mem_identifiers_of_parseGroup e hmore declaration hmem)
termination_by c.left

theorem mem_identifiers_of_parseTypes {file : String} {line : Nat} {declarations : List Declaration}
    {d : c.Within} (h : (c.parseTypes file line).value = .ok (declarations, d)) :
    ∀ declaration ∈ declarations, declaration.name ∈ identifiers c.rest := by
  unfold parseTypes at h
  split at h
  · next d hd heat =>
    rw [Reading.value_bind] at h
    obtain ⟨⟨declarations, e, he⟩, hgroup, h⟩ := ok_of_bind_iff.mp h
    cases h
    intro declaration hmem
    exact Onward.identifiers_subset (motion_onward.passes_eat? heat (by decide))
      (mem_identifiers_of_parseGroup _ hgroup declaration hmem)
  · rw [Reading.value_bind] at h
    obtain ⟨⟨declaration?, d, hd⟩, hdeclaration, h⟩ := ok_of_bind_iff.mp h
    cases h
    intro declaration hmem
    exact mem_identifiers_of_parseDeclaration hdeclaration declaration (Option.mem_toList.mp hmem)

/-- The names that are read are those of identifiers, unless the package was named before. -/
structure Named (c : Cursor) (before? package? : Option String) (declarations : List Declaration) :
    Prop where
  package : ∀ package ∈ package?, package ∈ before? ∨ package ∈ identifiers c.rest
  declarations : ∀ declaration ∈ declarations, declaration.name ∈ identifiers c.rest

theorem Named.from {before? package? : Option String} {declarations : List Declaration}
    (h : d.Named before? package? declarations) (hcd : c.Onward d) :
    c.Named before? package? declarations where
  package package hmem :=
    (h.package package hmem).imp_right fun hlater => hcd.identifiers_subset hlater
  declarations declaration hmem := hcd.identifiers_subset (h.declarations declaration hmem)

theorem named_of_parseRest (c : Cursor) {file : String} {before? package? : Option String}
    {declarations : List Declaration}
    (h : (c.parseRest file before?).value = .ok (package?, declarations)) :
    c.Named before? package? declarations := by
  rw [parseRest] at h
  have hskip := motion_onward.skipTrivia c
  split at h
  · cases h
    exact ⟨fun package hpackage => .inl hpackage, List.forall_mem_nil _⟩
  · next t d hd hnext =>
    have hcd : c.Onward d := hskip.trans (motion_onward.next hnext)
    have hd := later_of_skipTrivia hd
    split at h
    · -- the name of a package clause
      simp only [Reading.value_bind, Reading.value_liftM] at h
      obtain ⟨⟨name, e, he⟩, hname, h⟩ := ok_of_bind_iff.mp h
      have he' : e.forget.left < c.left := later_trans he hd
      have hlater : c.Named (some name.text) package? declarations :=
        (named_of_parseRest e.forget h).from
          (hcd.trans ((motion_onward.halts_expectIdent d).leads _ hname))
      refine { hlater with package := fun package hmem => .inr ?_ }
      rcases hlater.package package hmem with hclause | hrest
      · cases hclause
        exact hcd.identifiers_subset (mem_identifiers_of_expectIdent hname)
      · exact hrest
    · split at h
      · -- the names of type declarations
        simp only [Reading.value_bind] at h
        obtain ⟨⟨types, e, he⟩, htypes, h⟩ := ok_of_bind_iff.mp h
        obtain ⟨⟨package?', more⟩, hmore, h⟩ := ok_of_bind_iff.mp h
        cases h
        have he' : e.left < c.left := later_of_within he hd
        have hlater : c.Named before? package?' more :=
          (named_of_parseRest e hmore).from
            (hcd.trans ((motion_onward.halts_parseTypes d file _).leads _ htypes))
        refine { hlater with declarations := ?_ }
        intro declaration hmem
        rcases List.mem_append.mp hmem with hmem | hmem
        · exact hcd.identifiers_subset (mem_identifiers_of_parseTypes htypes declaration hmem)
        · exact hlater.declarations declaration hmem
      · -- everything else is passed over
        split at h
        · simp only [Reading.value_bind, Reading.value_liftM] at h
          obtain ⟨⟨e, he⟩, hskipped, h⟩ := ok_of_bind_iff.mp h
          have he' : e.forget.left < c.left := later_of_within he hd
          exact (named_of_parseRest e.forget h).from
            (hcd.trans ((motion_onward.halts_skipFunction d _ _).leads _ hskipped))
        · split at h
          · simp only [Reading.value_bind, Reading.value_liftM] at h
            obtain ⟨⟨e, he⟩, hskipped, h⟩ := ok_of_bind_iff.mp h
            have he' : e.forget.left < c.left := later_of_within he hd
            exact (named_of_parseRest e.forget h).from
              (hcd.trans ((motion_onward.halts_skipDeclaration d).leads _ hskipped))
          · cases h
termination_by c.left

end Cursor

/-! ## Packages -/

theorem File.isIdentifier_of_ofText {file text : String} {f : File}
    (h : (File.ofText file text).value = .ok f) :
    isIdentifier f.package ∧ ∀ declaration ∈ f.declarations, isIdentifier declaration.name := by
  unfold ofText at h
  simp only [Reading.value_bind, Reading.value_liftM] at h
  obtain ⟨tokens, hscan, h⟩ := ok_of_bind_iff.mp h
  unfold ofTokens at h
  simp only [Reading.value_bind] at h
  obtain ⟨⟨package?, declarations⟩, hread, h⟩ := ok_of_bind_iff.mp h
  obtain ⟨hpackage, hdeclarations⟩ := Cursor.named_of_parseRest _ hread
  have hidentifier := isIdentifier_of_scanFrom hscan
  cases package? with
  | none => cases h
  | some package =>
      cases h
      refine ⟨?_, fun declaration hmem => hidentifier _ (hdeclarations declaration hmem)⟩
      rcases hpackage package rfl with hnone | hmem
      · cases hnone
      · exact hidentifier package hmem

end GoSchema.Go

namespace GoSchema.Package

open Go

theorem ofText_of_readFile {name text : String} {file : Go.File}
    (h : (readFile name text).run.value = .ok file) :
    (Go.File.ofText name text).value = .ok file := by
  obtain ⟨result, hresult, h⟩ := Logged.ok_of_run_bind_iff.mp h
  have hread : (Go.File.ofText name text).value = result := Except.ok.inj hresult
  cases result with
  | error fault => cases h
  | ok file' =>
      cases h
      exact hread

theorem isIdentifier_of_readMore {package first : String} {texts : List (String × String)}
    {declarations : List Declaration}
    (h : (readMore package first texts).run.value = .ok declarations) :
    ∀ declaration ∈ declarations, isIdentifier declaration.name := by
  induction texts generalizing declarations with
  | nil =>
      cases h
      exact nofun
  | cons text rest ih =>
      rw [readMore] at h
      obtain ⟨file, hfile, h⟩ := Logged.ok_of_run_bind_iff.mp h
      obtain ⟨-, hdeclarations⟩ := File.isIdentifier_of_ofText (ofText_of_readFile hfile)
      split at h
      · cases h
      · obtain ⟨-, -, h⟩ := Logged.ok_of_run_bind_iff.mp h
        obtain ⟨more, hmore, h⟩ := Logged.ok_of_run_bind_iff.mp h
        cases h
        exact List.forall_mem_append.mpr ⟨hdeclarations, ih hmore⟩

/-- **Packages are well named.**  Whatever texts a package is read from, its name and the names of
its declarations are identifiers. -/
theorem wellNamed_of_ofTexts {texts : List (String × String)} {module : Module}
    (h : (ofTexts texts).run.value = .ok module) : module.WellNamed := by
  cases texts with
  | nil => cases h
  | cons text rest =>
      obtain ⟨file, hfile, h⟩ := Logged.ok_of_run_bind_iff.mp h
      obtain ⟨hpackage, hdeclarations⟩ := File.isIdentifier_of_ofText (ofText_of_readFile hfile)
      obtain ⟨-, -, h⟩ := Logged.ok_of_run_bind_iff.mp h
      obtain ⟨more, hmore, h⟩ := Logged.ok_of_run_bind_iff.mp h
      cases h
      exact ⟨hpackage, List.forall_mem_append.mpr ⟨hdeclarations, isIdentifier_of_readMore hmore⟩⟩

end GoSchema.Package
