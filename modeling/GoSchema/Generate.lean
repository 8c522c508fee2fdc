import GoSchema.Mapping.Documents

/-!
# Generating documents

The whole way from sources to documents, and of documents to files. Nothing is written unless every
document can be written.
-/

namespace GoSchema.Generate

open Mapping

/-- Generating that may fail and may report events. -/
abbrev Generating := ExceptT Error Logged

/-- The documents of a package. -/
def ofModule (options : Options) (module : Go.Module) : Generating Documents := do
  match ← (documents options module).run with
  | .ok docs => return docs
  | .error refusal => throw (.schema refusal)

/-- The texts of documents by their names. -/
def texts (docs : Documents) : Except Error (List (String × String)) :=
  match render docs with
  | .ok outputs => .ok outputs
  | .error refusal => .error (.schema refusal)

/-- The documents of files that are given by their names and texts. -/
def ofTexts (options : Options) (files : List (String × String)) : Generating Documents := do
  ofModule options (← Package.ofTexts files)

/-- The documents of the package that some paths of a tree stand for. -/
def ofPaths (options : Options) (tree : File.Tree) (paths : List File.Path) :
    Generating Documents := do
  ofModule options (← Package.ofPaths tree paths)

/-! ## Writing files -/

open File

/-- Work on a file tree that may fail and may report events. What was written before a failure
stays. -/
abbrev Writing := ExceptT Error (StateT Tree Logged)

/-- Does work that needs no tree. -/
def Writing.make {α : Type} (x : Generating α) : Writing α := ExceptT.mk (liftM x.run)

/-- Writes texts under their names into a directory that is there. -/
def writeFiles (directory : Path) : List (String × String) → Writing (List Path)
  | [] => return []
  | (name, text) :: rest => do
    let path := directory.join (Path.ofString name)
    match (← get).writeText path text with
    | .error failure => throw (.writing path.toString failure)
    | .ok tree =>
      set tree
      (liftM (Logged.report (.documentWritten path.toString text.utf8ByteSize)) : Writing Unit)
      return path :: (← writeFiles directory rest)

/-- Writes texts under their names into a directory, which is made if it is missing. An empty path is
the working directory. -/
def write (directory : Path) (outputs : List (String × String)) : Writing (List Path) := do
  if !directory.isEmpty then
    match (← get).ensurePath directory with
    | .error failure => throw (.writing directory.toString failure)
    | .ok tree => set tree
  writeFiles directory outputs

end GoSchema.Generate
