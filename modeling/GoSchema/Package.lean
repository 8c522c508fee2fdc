import GoSchema.Error
import GoSchema.Go.File

/-!
# Loading packages

A package is loaded from named texts, from a directory or from files of one directory. Its files have
to agree on the name of the package.
-/

namespace GoSchema.Package

/-- Loading that may fail and reports what it reads. -/
abbrev Loading := ExceptT Error Logged

/-! ## From texts -/

/-- Reads one file. -/
def readFile (name text : String) : Loading Go.File := do
  match ← (Go.File.ofText name text).run with
  | .ok file => return file
  | .error fault => throw (.source name fault)

/-- Reads the files after the first one, which named the package. -/
def readMore (package first : String) : List (String × String) → Loading (List Go.Declaration)
  | [] => return []
  | (name, text) :: rest => do
    let file ← readFile name text
    if file.package ≠ package then
      throw (.package (.severalPackages package first file.package name))
    Logged.report (.fileRead name file.declarations.length)
    return file.declarations ++ (← readMore package first rest)

/-- The package of some files, given by their names and texts. -/
def ofTexts : List (String × String) → Loading Go.Module
  | [] => throw (.package .noSources)
  | (name, text) :: rest => do
    let file ← readFile name text
    Logged.report (.fileRead name file.declarations.length)
    return ⟨file.package, file.declarations ++ (← readMore file.package name rest)⟩

/-! ## From files -/

open File

/-- Whether a file of a directory belongs to the package, and not to its tests. -/
def isSourceName (name : String) : Bool :=
  ".go".toList.isSuffixOf name.toList && !"_test.go".toList.isSuffixOf name.toList

/-- The source files of a directory in the order of their names. -/
def discover (tree : Tree) (directory : Path) : Except PackageError (List Path) :=
  let files := (tree.list directory).filter fun p =>
    tree.isFile p && p.fileName?.any isSourceName
  if files.isEmpty then .error (.noSourcesIn directory.toString)
  else .ok (files.mergeSort Path.precedes)

/-- The directory of a file; the working directory is a point. -/
def directoryOf (p : Path) : Path :=
  match p.parent? with
  | some directory => if directory.isEmpty then .ofString "." else directory
  | none => .ofString "."

/-- Checks that paths are files of one directory, which the first of them gives. -/
def checkFiles (tree : Tree) (directory? : Option Path) : List Path → Except PackageError Unit
  | [] => .ok ()
  | p :: rest =>
    if !tree.isFile p then .error (.notSource p.toString)
    else
      match directory? with
      | none => checkFiles tree (some (directoryOf p)) rest
      | some directory =>
        if directory.same (directoryOf p) then checkFiles tree directory? rest
        else .error (.severalDirectories directory.toString (directoryOf p).toString)

/-- Paths without those that have the same components as the path before them. -/
def dropRepeats : List Path → List Path
  | [] => []
  | [p] => [p]
  | p :: q :: rest => if p.same q then dropRepeats (p :: rest) else p :: dropRepeats (q :: rest)
termination_by paths => paths.length

/-- The source files that paths stand for: those of a single directory, or the files themselves. -/
def sources (tree : Tree) : List Path → Except PackageError (List Path)
  | [] => .error .noInputs
  | [p] => if tree.isDirectory p then discover tree p else explicit [p]
  | paths => explicit paths
where
  /-- The files themselves, each once and in the order of their paths. -/
  explicit (paths : List Path) : Except PackageError (List Path) := do
    checkFiles tree none paths
    return dropRepeats (paths.mergeSort Path.precedes)

/-- The texts of files under their paths. -/
def readTexts (tree : Tree) (paths : List Path) : Except Failure (List (String × String)) :=
  paths.mapM fun p => do return (p.toString, ← tree.readText p)

/-- The package that paths of a tree stand for. -/
def ofPaths (tree : Tree) (paths : List Path) : Loading Go.Module := do
  match sources tree paths with
  | .error e => throw (.package e)
  | .ok files =>
    match readTexts tree files with
    | .error failure => throw (.reading failure)
    | .ok texts => ofTexts texts

end GoSchema.Package
