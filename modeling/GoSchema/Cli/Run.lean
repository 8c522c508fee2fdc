import GoSchema.Cli.Arguments
import GoSchema.Generate
import GoSchema.Pattern.Parser
import GoSchema.Schema.Dump

/-!
# Running a command line

What a command line does to a tree of files, and what it prints.
-/

namespace GoSchema.Cli

open File Generate Mapping

/-- The pattern that selects every declaration. -/
def defaultFilter : String := ".*"

/-- The well-known overrides and those of a file. -/
def loadOverrides (tree : Tree) (path : Path) : Except Error Overrides :=
  match tree.readText path with
  | .error failure => .error (.reading failure)
  | .ok text =>
    match Overrides.parse? text with
    | some overrides => .ok (Overrides.wellKnown.merge overrides)
    | none => .error .overrides

namespace Arguments

/-- The path that is asked for as output. -/
def outputPath? (a : Arguments) : Option Path := a.output?.map Path.ofString

/-- The directory that files are written to: the output itself for one document per file, and the
directory of the output otherwise. -/
def directory (a : Arguments) : Path :=
  if a.perFile then a.outputPath?.getD (.ofString ".")
  else (a.outputPath?.bind Path.parent?).getD .empty

/-- What the arguments choose about the documents. -/
def choose (a : Arguments) (tree : Tree) : Except Error Options := do
  let some filter := Pattern.parse? (a.filter?.getD defaultFilter) | throw .filter
  let overrides ← match a.overrides? with
    | some path => loadOverrides tree (.ofString path)
    | none => pure Overrides.wellKnown
  return {
    package? := a.package?
    filter := filter
    overrides := overrides
    grouping := if a.perFile then .perFile else .single
    fileOptions := .ofList a.options
    outputName? := if a.perFile then none else a.outputPath?.bind Path.fileName? }

end Arguments

/-- Work of a command line. Beside what it does to a file tree it prints, and what was printed before
a failure stays printed. -/
abbrev Printing := ExceptT Error (StateT String (StateT Tree Logged))

namespace Printing

/-- Does work that prints nothing. -/
def silently {α : Type} (x : Writing α) : Printing α := ExceptT.mk (liftM x.run)

/-- Prints a text. -/
def print (text : String) : Printing Unit := modify (· ++ text)

/-- Prints texts one after the other. -/
def printAll (texts : List String) : Printing Unit := texts.forM print

end Printing

open Printing

/-- Runs a command line. -/
def execute (a : Arguments) : Printing Unit := do
  let tree ← silently get
  let options ← (a.choose tree : Except Error Options)
  let docs ← silently (Writing.make (ofPaths options tree (a.inputs.map Path.ofString)))
  if a.json then
    printAll (docs.values.map fun doc => doc.dump ++ "\n")
  else
    let outputs ← (texts docs : Except Error (List (String × String)))
    if a.stdout then
      print ("\n".intercalate (outputs.map (·.2)))
    else
      let written ← silently (write a.directory outputs)
      printAll (written.map fun path => "Generated " ++ path.toString ++ "\n")

/-- Runs a command line and returns what it has printed when it is done. -/
def run (a : Arguments) : Writing String := ExceptT.mk do
  let (result, text) ← (execute a).run.run ""
  return result.map fun _ => text

/-- The line that tells why a run failed. -/
def diagnostic (e : Error) : String := "error: " ++ e.message

end GoSchema.Cli
