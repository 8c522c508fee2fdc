import GoSchema.Generate
import GoSchema.Proofs.File.Listings
import GoSchema.Proofs.Go.Relocation
import GoSchema.Proofs.Mapping.Resolution
import GoSchema.Proofs.Mapping.Translation

/-!
# How files are listed

What becomes of a package depends on the names of its files only through their stems: they tell
the files of tests, and name the documents where each file has its own
(`translation_relocate_eq_ok_iff`).  The directory that stands in front of a name is left out.

A list of files is therefore as good as the names of its files, in the order in which the files are
read (`exists_ofPaths_listing_iff`).  Two lists that agree in this come to the same
(`ofPaths_eq_ok_iff_of_agree`): each path is in both of them, however often and wherever, or both
are in order of names, whichever names have a point in front.  Where one file is listed with and
without a point it is read twice, and a contract in it is refused as a duplicate of itself
(`ofPaths_store_twice_ne`).
-/

namespace GoSchema.Mapping

open Schema Go

/-! ## Packages with files under other names -/

section Relocation

variable {options : Options} {module : Module} {f : String → String}

/-- Other names for files that have the same stems. -/
def KeepsStems (f : String → String) : Prop :=
  ∀ file, (File.Path.ofString (f file)).fileStem? = (File.Path.ofString file).fileStem?

theorem isEligible_relocate (hf : KeepsStems f) (d : Declaration) :
    isEligible (d.relocate f) = isEligible d := by
  have htest : isTestDouble (d.relocate f) = isTestDouble d := by
    show ((File.Path.ofString (f d.file)).fileStem?.any _ || _) = _
    rw [hf]
    rfl
  unfold isEligible
  rw [htest]
  rfl

theorem placement_relocate (options : Options) (module : Module) (hf : KeepsStems f) :
    placement options (module.relocate f) =
      (placement options module).map fun p => (p.1.relocate f, p.2) := by
  have hname (d : Declaration) :
      documentName options module.name (d.relocate f) = documentName options module.name d := by
    unfold documentName
    split
    · rfl
    · exact congrArg (fun stem => stem.getD module.name ++ ".proto") (hf d.file)
  have hselect : select options.filter (module.declarations.map (Declaration.relocate f)) =
      (select options.filter module.declarations).map (Declaration.relocate f) := by
    rw [select, select, List.filter_map]
    refine congrArg _ (List.filter_congr fun d _ => ?_)
    show (isEligible (d.relocate f) && _) = _
    rw [isEligible_relocate hf]
    rfl
  show (select options.filter (module.declarations.map (Declaration.relocate f))).map _ = _
  rw [hselect, placement, List.map_map, List.map_map]
  refine List.map_congr_left fun d _ => ?_
  exact congrArg (Prod.mk (d.relocate f)) (hname d)

/-- Mappers agree on a package whose files have other names. -/
theorem mapperFor_relocate_agree (options : Options) (module : Module) (hf : KeepsStems f) :
    (mapperFor options (module.relocate f)).Agree (mapperFor options module) where
  name_eq := rfl
  overrides_eq := rfl
  shape_eq name := by
    show ((module.declarations.map (Declaration.relocate f)).reverse.find? _).map _ = _
    rw [← List.map_reverse, List.find?_map, Option.map_map]
    rfl
  origins_eq := by
    show originsOf (placement options (module.relocate f)) = originsOf (placement options module)
    rw [placement_relocate options module hf, originsOf, originsOf, List.filterMap_map]
    rfl

/-- What a declaration adds does not depend on the name of its file. -/
theorem additions_relocate (options : Options) (module : Module) (hf : KeepsStems f)
    (d : Declaration) :
    (mapperFor options (module.relocate f)).additions (d.relocate f) =
      (mapperFor options module).additions d := by
  rw [Mapper.additions_congr (mapperFor_relocate_agree options module hf).resolve_eq]
  rfl

theorem addedAt_relocate (options : Options) (module : Module) (hf : KeepsStems f) (name : String) :
    (mapperFor options (module.relocate f)).addedAt (placement options (module.relocate f)) name =
      (mapperFor options module).addedAt (placement options module) name := by
  have hadded (d : Declaration) : (mapperFor options (module.relocate f)).added (d.relocate f) =
      (mapperFor options module).added d := by
    rw [Mapper.added, Mapper.added, additions_relocate options module hf]
  rw [placement_relocate options module hf, Mapper.addedAt, Mapper.addedAt, List.filter_map,
    List.flatMap_map]
  simp only [hadded]
  rfl

theorem accepts_relocate_iff (hf : KeepsStems f) :
    (mapperFor options (module.relocate f)).Accepts (placement options (module.relocate f)) ↔
      (mapperFor options module).Accepts (placement options module) := by
  have hadditions : (∀ p ∈ placement options (module.relocate f), ∃ additions,
      (mapperFor options (module.relocate f)).additions p.1 = .ok additions) ↔
        ∀ p ∈ placement options module, ∃ additions,
          (mapperFor options module).additions p.1 = .ok additions := by
    rw [placement_relocate options module hf, List.forall_mem_map]
    simp only [additions_relocate options module hf]
  have hcompatible (name : String) : Compatible ((mapperFor options (module.relocate f)).addedAt
      (placement options (module.relocate f)) name) ↔
        Compatible ((mapperFor options module).addedAt (placement options module) name) := by
    rw [addedAt_relocate options module hf]
  exact ⟨fun h => ⟨hadditions.mp h.1, fun name => (hcompatible name).mp (h.2 name)⟩,
    fun h => ⟨hadditions.mpr h.1, fun name => (hcompatible name).mpr (h.2 name)⟩⟩

theorem documentsOf_relocate (options : Options) (module : Module) (hf : KeepsStems f) :
    (mapperFor options (module.relocate f)).documentsOf (newDocument options (module.relocate f))
        (placement options (module.relocate f)) =
      (mapperFor options module).documentsOf (newDocument options module)
        (placement options module) := by
  refine TextMap.ext_get? fun name => ?_
  rw [Mapper.documentsOf, Mapper.documentsOf, TextMap.get?_tabulate, TextMap.get?_tabulate,
    addedAt_relocate options module hf, placement_relocate options module hf, List.map_map]
  rfl

/-- **Only the stems of file names count.**  A package is translated in the same way when its files
have other names of the same stems. -/
theorem translation_relocate_eq_ok_iff (hf : KeepsStems f) {docs : Documents} :
    translation options (module.relocate f) = .ok docs ↔ translation options module = .ok docs := by
  rw [translation_eq_ok_iff, translation_eq_ok_iff, accepts_relocate_iff hf,
    documentsOf_relocate options module hf]

end Relocation

end GoSchema.Mapping

namespace GoSchema.Generate

open File Mapping

variable {options : Options} {tree : Tree} {l l' : List Listing} {docs : Documents}

theorem ofModule_eq_ok_iff {module : Go.Module} :
    (ofModule options module).run.value = .ok docs ↔ translation options module = .ok docs := by
  constructor
  · intro h
    obtain ⟨result, hresult, h⟩ := Logged.ok_of_run_bind_iff.mp h
    obtain rfl : translation options module = result := Except.ok.inj hresult
    cases hresult : translation options module with
    | error refusal =>
        rw [hresult] at h
        cases h
    | ok docs' =>
        rw [hresult] at h
        exact congrArg _ (Except.ok.inj h)
  · intro h
    refine Logged.ok_of_run_bind_iff.mpr ⟨.ok docs, ?_, rfl⟩
    exact congrArg Except.ok h

theorem ofTexts_eq_ok_iff {texts : List (String × String)} :
    (ofTexts options texts).run.value = .ok docs ↔
      ∃ module, (Package.ofTexts texts).run.value = .ok module ∧
        translation options module = .ok docs := by
  rw [ofTexts, Logged.ok_of_run_bind_iff]
  simp only [ofModule_eq_ok_iff]

/-- What paths come to is what the texts of their files come to. -/
theorem value_ofPaths {paths files : List Path} {texts : List (String × String)}
    (hsources : Package.sources tree paths = .ok files)
    (htexts : Package.readTexts tree files = .ok texts) :
    (ofPaths options tree paths).run.value = (ofTexts options texts).run.value := by
  rw [ofPaths, Logged.value_run_bind, Package.ofPaths]
  simp only [hsources, htexts]
  rw [ofTexts, Logged.value_run_bind]

theorem ofPaths_eq_ok_iff {paths files : List Path} (h : Package.sources tree paths = .ok files) :
    (ofPaths options tree paths).run.value = .ok docs ↔
      ∃ texts, Package.readTexts tree files = .ok texts ∧
        (ofTexts options texts).run.value = .ok docs := by
  cases htexts : Package.readTexts tree files with
  | ok texts => simp [value_ofPaths h htexts]
  | error failure =>
      rw [ofPaths, Logged.value_run_bind, Package.ofPaths]
      simp only [h, htexts]
      exact iff_of_false nofun nofun

/-- Texts come to the same under other names with the same stems. -/
theorem ofTexts_map_eq_ok_iff {f : String → String} (hf : KeepsStems f)
    {texts : List (String × String)} :
    (ofTexts options (texts.map (Prod.map f id))).run.value = .ok docs ↔
      (ofTexts options texts).run.value = .ok docs := by
  rw [ofTexts_eq_ok_iff, ofTexts_eq_ok_iff]
  simp only [Package.ofTexts_relocate_iff]
  constructor
  · rintro ⟨_, ⟨module, hmodule, rfl⟩, hdocs⟩
    exact ⟨module, hmodule, (translation_relocate_eq_ok_iff hf).mp hdocs⟩
  · rintro ⟨module, hmodule, hdocs⟩
    exact ⟨_, ⟨module, hmodule, rfl⟩, (translation_relocate_eq_ok_iff hf).mpr hdocs⟩

/-- What files come to is what their texts come to, read in the order of the files under the names
of the files alone. -/
theorem exists_ofPaths_listing_iff (options : Options) (hne : l ≠ [])
    (hfiles : ∀ x ∈ l, tree.isFile x.path) :
    ∃ s : List Listing, s.Pairwise Listing.Before ∧ (∀ x, x ∈ s ↔ x ∈ l) ∧
      ∀ docs, (ofPaths options tree (l.map Listing.path)).run.value = .ok docs ↔
        ∃ texts, Package.readTexts tree (s.map fun x => x.undotted.path) = .ok texts ∧
          (ofTexts options texts).run.value = .ok docs := by
  obtain ⟨s, hs, hmem, hsources⟩ := Listing.exists_sources_listing hne hfiles
  refine ⟨s, hs, hmem, fun docs => ?_⟩
  rw [ofPaths_eq_ok_iff hsources, Listing.readTexts_map_undotted]
  simp only [ok_of_map_iff]
  constructor
  · rintro ⟨texts, htexts, hdocs⟩
    exact ⟨_, ⟨texts, htexts, rfl⟩, (ofTexts_map_eq_ok_iff Path.fileStem?_ownName).mpr hdocs⟩
  · rintro ⟨_, ⟨texts, htexts, rfl⟩, hdocs⟩
    exact ⟨texts, htexts, (ofTexts_map_eq_ok_iff Path.fileStem?_ownName).mp hdocs⟩

/-- **How files are listed does not matter** as long as the lists agree: they name the same files,
and each path is in both of them or both are in order of names.  How often and where a path is
listed makes no difference, and neither do the points in front of names. -/
theorem ofPaths_eq_ok_iff_of_agree (options : Options) (hfiles : ∀ x ∈ l, tree.isFile x.path)
    (h : Listing.Agree l l') (docs : Documents) :
    (ofPaths options tree (l.map Listing.path)).run.value = .ok docs ↔
      (ofPaths options tree (l'.map Listing.path)).run.value = .ok docs := by
  by_cases hne : l = []
  · rw [hne, h.eq_nil_iff.mp hne]
  · obtain ⟨s, hs, hmem, hiff⟩ := exists_ofPaths_listing_iff options hne hfiles
    obtain ⟨s', hs', hmem', hiff'⟩ :=
      exists_ofPaths_listing_iff options (mt h.eq_nil_iff.mpr hne) (h.isFile_path hfiles)
    -- the same names are read in the same order
    have hnames : s.map Listing.name = s'.map Listing.name :=
      Listing.map_name_eq hs hs' hmem hmem' h
    have hpaths : (s.map fun x => x.undotted.path) = s'.map fun x => x.undotted.path := by
      have hpath := congrArg (List.map Path.ofString) hnames
      rwa [List.map_map, List.map_map] at hpath
    rw [hiff, hiff', hpaths]

/-! ## Examples -/

/-- A directory with a record in one file and a contract in another one. -/
def shelf : Tree :=
  ⟨[(["item.go"], .file "package shop\n\ntype Item struct \x7b\n\tName string\n\x7d\n".toUTF8),
    (["store.go"], .file "package shop\n\ntype Store interface \x7b\n\tPing()\n\x7d\n".toUTF8)], []⟩

/-- What the file of the record says. -/
def itemText : String := "package shop\n\ntype Item struct \x7b\n\tName string\n\x7d\n"

/-- What the file of the contract says. -/
def storeText : String := "package shop\n\ntype Store interface \x7b\n\tPing()\n\x7d\n"

/-- The record that its file declares. -/
def itemDeclaration : Go.Declaration :=
  ⟨"Item", "", "item.go", ⟨3, 6⟩, .record [⟨some "Name", .ofName "string", .empty, "", ⟨4, 2⟩⟩]⟩

/-- The contract that its file declares, whatever the file is called. -/
def storeDeclaration (name : String) : Go.Declaration :=
  ⟨"Store", "", name, ⟨3, 6⟩, .contract [.method "Ping" [] [] "" ⟨4, 2⟩]⟩

theorem value_ofText_item :
    (Go.File.ofText "item.go" itemText).value = .ok ⟨"shop", [itemDeclaration]⟩ := by
  rewrite [Go.File.ofText, Go.Token.scan, itemText, String.toList_ofList]
  decide +kernel

theorem value_ofText_store (name : String) :
    (Go.File.ofText name storeText).value = .ok ⟨"shop", [storeDeclaration name]⟩ := by
  have hread : (Go.File.ofText "store.go" storeText).value =
      .ok ⟨"shop", [storeDeclaration "store.go"]⟩ := by
    rewrite [Go.File.ofText, Go.Token.scan, storeText, String.toList_ofList]
    decide +kernel
  rw [Go.File.value_ofText_relocate (fun _ => name) "store.go", hread]
  rfl

/-- The file of the record, as it is listed. -/
def itemFile (dotted : Bool) : Listing :=
  ⟨"item.go", dotted, by decide, by decide⟩

/-- The file of the contract, as it is listed. -/
def storeFile (dotted : Bool) : Listing :=
  ⟨"store.go", dotted, by decide, by decide⟩

/-- The document of both files. -/
def shelfDocument : Schema.Document :=
  { Schema.Document.empty "shop.proto" "shop" with
    messages := [
      ⟨"Item", "", [⟨"name", "", 1, .scalar "string", ⟨none, false, none⟩⟩]⟩,
      ⟨"StorePingOp", "", []⟩, ⟨"StorePingResult", "", []⟩]
    services := [⟨"Store", "", [⟨"Ping", "", "StorePingOp", "StorePingResult"⟩]⟩] }

/-- The files are listed in order, and in no order with a point and a repeat. -/
theorem ofPaths_shelf :
    (∀ x ∈ [itemFile false, storeFile false], shelf.isFile x.path) ∧
      Listing.Agree [itemFile false, storeFile false]
        [storeFile false, itemFile true, storeFile false] ∧
      (ofPaths .standard shelf (([storeFile false, itemFile true, storeFile false]).map
        Listing.path)).run.value = .ok (.ofList [("shop.proto", shelfDocument)]) := by
  have hfiles : ∀ x ∈ [itemFile false, storeFile false], shelf.isFile x.path := by
    decide +kernel
  have hagree : Listing.Agree [itemFile false, storeFile false]
      [storeFile false, itemFile true, storeFile false] := by
    refine .inr ⟨by decide, by decide, fun name => ?_⟩
    simp only [itemFile, storeFile, List.map_cons, List.map_nil, List.mem_cons, List.not_mem_nil]
    tauto
  refine ⟨hfiles, hagree, (ofPaths_eq_ok_iff_of_agree .standard hfiles hagree _).mp ?_⟩
  have hsources := Listing.sources_listing (List.cons_ne_nil _ _) hfiles (by decide)
    fun _ => Iff.rfl
  have htexts : Package.readTexts shelf ([itemFile false, storeFile false].map Listing.path) =
      .ok [("item.go", itemText), ("store.go", storeText)] := by
    decide +kernel
  have hmodule : (Package.ofTexts [("item.go", itemText), ("store.go", storeText)]).run.value =
      .ok ⟨"shop", [itemDeclaration, storeDeclaration "store.go"]⟩ :=
    Package.ofTexts_cons_eq_ok_iff.mpr ⟨_, value_ofText_item, _,
      Package.readMore_cons_eq_ok_iff.mpr ⟨_, value_ofText_store _, rfl, _, rfl, rfl⟩, rfl⟩
  exact (value_ofPaths hsources htexts).trans
    (ofTexts_eq_ok_iff.mpr ⟨_, hmodule, by decide +kernel⟩)

/-- **A file that is listed with and without a point is read twice.**  Its contract is then refused
as a duplicate of itself. -/
theorem ofPaths_store_twice_ne :
    (∀ x ∈ [storeFile false, storeFile true], shelf.isFile x.path) ∧
      (ofPaths .standard shelf ([storeFile false].map Listing.path)).run.value =
        .ok (.ofList [("shop.proto", { shelfDocument with messages := [
          ⟨"StorePingOp", "", []⟩, ⟨"StorePingResult", "", []⟩] })]) ∧
      (ofPaths .standard shelf ([storeFile false, storeFile true].map Listing.path)).run.value =
        .error (.schema ⟨"Store", .duplicateService "Store" "shop.proto"⟩) := by
  have hfiles : ∀ x ∈ [storeFile false, storeFile true], shelf.isFile x.path := by
    decide +kernel
  have honce : ∀ x ∈ [storeFile false], shelf.isFile x.path := by
    decide +kernel
  have hmem (x : Listing) : x ∈ [storeFile true, storeFile false] ↔
      x ∈ [storeFile false, storeFile true] := by
    rw [List.mem_pair, List.mem_pair]
    exact or_comm
  refine ⟨hfiles, ?_, ?_⟩
  · have hsources := Listing.sources_listing (List.cons_ne_nil _ _) honce
      (List.pairwise_singleton _ _) fun _ => Iff.rfl
    have htexts : Package.readTexts shelf ([storeFile false].map Listing.path) =
        .ok [("store.go", storeText)] := by
      decide +kernel
    have hmodule : (Package.ofTexts [("store.go", storeText)]).run.value =
        .ok ⟨"shop", [storeDeclaration "store.go"]⟩ :=
      Package.ofTexts_cons_eq_ok_iff.mpr ⟨_, value_ofText_store _, _, rfl, rfl⟩
    exact (value_ofPaths hsources htexts).trans
      (ofTexts_eq_ok_iff.mpr ⟨_, hmodule, by decide +kernel⟩)
  · have hsources := Listing.sources_listing (List.cons_ne_nil _ _) hfiles (by decide) hmem
    have htexts : Package.readTexts shelf ([storeFile true, storeFile false].map Listing.path) =
        .ok [("./store.go", storeText), ("store.go", storeText)] := by
      decide +kernel
    have hmodule : (Package.ofTexts [("./store.go", storeText), ("store.go", storeText)]).run.value =
        .ok ⟨"shop", [storeDeclaration "./store.go", storeDeclaration "store.go"]⟩ :=
      Package.ofTexts_cons_eq_ok_iff.mpr ⟨_, value_ofText_store _, _,
        Package.readMore_cons_eq_ok_iff.mpr ⟨_, value_ofText_store _, rfl, _, rfl, rfl⟩, rfl⟩
    refine (value_ofPaths hsources htexts).trans ?_
    rw [ofTexts, Logged.value_run_bind, hmodule]
    decide +kernel

end GoSchema.Generate
