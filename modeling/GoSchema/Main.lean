import GoSchema.Cli.Run

/-!
# The program

The outer layer: it observes the files that a command line names, runs the command line on them as a
tree, and carries out what became of the tree. It decides nothing itself.
-/

namespace GoSchema.Program

open File

/-- The trail that a path denotes, links left aside. -/
def trailOf (here : Trail) (p : Path) : Trail :=
  p.components.foldl (fun trail component =>
    match component with
    | .root => []
    | .here => trail
    | .up => trail.dropLast
    | .name name => trail ++ [name]) here

/-- Adds an entry to a tree that does not know it yet. -/
def learn (tree : Tree) (trail : Trail) (entry : Entry) : Tree :=
  if (tree.at? trail).isSome then tree else tree.plant trail entry

/-- Adds what there is at a path: a file with its content, or a directory with its entries. The
contents of entries that are no source files do not matter. -/
def observe (tree : Tree) (p : Path) : IO Tree := do
  let path := (← IO.currentDir) / p.toString
  let trail := trailOf tree.here p
  if ← path.isDir then
    let mut tree := learn tree trail .directory
    for entry in ← path.readDir do
      let child := path / entry.fileName
      let content ←
        if ← child.isDir then pure Entry.directory
        else if Package.isSourceName entry.fileName then
          pure (Entry.file (← IO.FS.readBinFile child))
        else pure (Entry.file ByteArray.empty)
      tree := learn tree (trail ++ [entry.fileName]) content
    return tree
  else if ← path.pathExists then
    return learn tree trail (.file (← IO.FS.readBinFile path))
  else
    return tree

/-- The paths that a command line depends on. Files that it reads come before directories that may
hold them. -/
def relevantPaths (a : Cli.Arguments) : List Path :=
  a.overrides?.toList.map Path.ofString ++ a.inputs.map Path.ofString ++
    (a.outputPath?.elim [] Path.ancestors).filter (fun p => !p.isEmpty) ++ [.ofString "."]

/-- Makes the directories and writes the files that a tree holds and an earlier one does not. -/
def carryOut (before after : Tree) : IO Unit := do
  for (trail, entry) in after.entries do
    if before.at? trail ≠ some entry then
      let path := "/" ++ "/".intercalate trail
      match entry with
      | .directory => IO.FS.createDirAll path
      | .file content => IO.FS.writeBinFile path content

end GoSchema.Program

open GoSchema GoSchema.Program

/-- Carries out a command line. The exit code tells whether it was understood and done. -/
def main (arguments : List String) : IO UInt32 := do
  match Cli.Arguments.parse? arguments with
  | none =>
    IO.eprintln "usage: goschema [OPTIONS] <INPUTS>..."
    return 2
  | some a =>
    let here := trailOf [] (.ofString (← IO.currentDir).toString)
    let before ← (relevantPaths a).foldlM observe (File.Tree.bare here)
    let ((result, text), after) := (((Cli.execute a).run.run "").run before).value
    carryOut before after
    IO.print text
    match result with
    | .ok _ => return 0
    | .error e =>
      IO.eprintln (Cli.diagnostic e)
      return 1
