import GoSchema.File.Tree
import GoSchema.Go.Fault
import GoSchema.Schema.Document

/-!
# Errors

Everything that can end a run: files that cannot be read or written, sources that are refused, and
declarations that have no place in a schema document.
-/

namespace GoSchema

/-- Why some inputs make no package. -/
inductive PackageError where
  | noInputs
  | noSources
  | noSourcesIn (directory : String)
  | notSource (path : String)
  | severalDirectories (first other : String)
  | severalPackages (package first other file : String)
deriving Repr, DecidableEq

/-- The words for such an error. -/
def PackageError.message : PackageError → String
  | noInputs => "no input paths given"
  | noSources => "no source files to read"
  | noSourcesIn directory => "no Go source files found in " ++ directory
  | notSource path =>
    path ++ " is not a source file; pass a single directory or files from one directory"
  | severalDirectories first other =>
    "input files span several directories (" ++ first ++ " and " ++ other ++ ")"
  | severalPackages package first other file =>
    "found package " ++ package ++ " in " ++ first ++ " and package " ++ other ++ " in " ++ file

/-- A declaration that cannot be added to its document, or a document that cannot be written. -/
structure Refusal where
  declaration : String
  problem : Schema.Problem
deriving Repr, DecidableEq

/-- Why a run ends without a result. -/
inductive Error where
  | reading (failure : File.Failure)
  | source (file : String) (fault : Go.Fault)
  | package (e : PackageError)
  | filter
  | overrides
  | schema (refusal : Refusal)
  | writing (path : String) (failure : File.Failure)
deriving Repr, DecidableEq

/-- The words for an error. -/
def Error.message : Error → String
  | reading failure => "I/O error: " ++ failure.message
  | source file fault =>
    "Parse error in " ++ file ++ " at line " ++ toString fault.pos.line ++ ", column " ++
      toString fault.pos.column ++ ": " ++ fault.cause.message
  | package e => "Module error: " ++ e.message
  | filter => "Invalid name filter"
  | overrides => "Invalid JSON"
  | schema refusal =>
    "Schema error in " ++ refusal.declaration ++ ": " ++ refusal.problem.message
  | writing path failure => "Cannot write " ++ path ++ ": " ++ failure.message

end GoSchema
