import GoSchema.File.Path

/-!
# File trees

A file system as a value: which files and directories there are, and which of them is the working
directory. Reading a path walks from there, or from the top for a rooted path, step by step; writing
gives a new tree. The causes of failure are those of a file system.
-/

namespace GoSchema.File

/-- Why a path cannot be read or written. -/
inductive Failure where
  | notFound
  | alreadyExists
  | notDirectory
  | isDirectory
  /-- The content is no UTF-8 text. -/
  | notText
deriving Repr, DecidableEq

/-- The words for a failure. -/
def Failure.message : Failure → String
  | notFound => "No such file or directory (os error 2)"
  | alreadyExists => "File exists (os error 17)"
  | notDirectory => "Not a directory (os error 20)"
  | isDirectory => "Is a directory (os error 21)"
  | notText => "stream did not contain valid UTF-8"

/-- What a name stands for. -/
inductive Entry where
  | file (content : ByteArray)
  | directory

instance : DecidableEq Entry
  | .file first, .file second =>
    @decidable_of_iff _ (first = second) ⟨congrArg Entry.file, Entry.file.inj⟩
      (ByteArray.decEq first second)
  | .directory, .directory => isTrue rfl
  | .file _, .directory | .directory, .file _ => isFalse nofun

/-- The names from the top of the tree down to an entry. -/
abbrev Trail := List String

/-- A tree of files. The top is a directory without an entry of its own. -/
structure Tree where
  entries : List (Trail × Entry)
  /-- The working directory. -/
  here : Trail

namespace Tree

/-- The entry at a trail. -/
def at? (t : Tree) (trail : Trail) : Option Entry :=
  if trail.isEmpty then some .directory else t.entries.lookup trail

/-- Puts an entry at a trail, in the place of an earlier one. -/
def put (t : Tree) (trail : Trail) (entry : Entry) : Tree :=
  { t with entries := t.entries.filter (fun e => e.1 != trail) ++ [(trail, entry)] }

/-- The names in a directory. -/
def names (t : Tree) (directory : Trail) : List String :=
  t.entries.filterMap fun e =>
    if e.1.dropLast = directory then e.1.getLast? else none

/-! ## Walking -/

/-- Where a path leads: to an entry, or to a name that is free in a directory. -/
inductive Target where
  | present (trail : Trail) (entry : Entry)
  | free (trail : Trail)
deriving DecidableEq

/-- Walks the segments of a path from a trail. Every step leads out of a directory, also one that
stays where it is. -/
def walk (t : Tree) (trail : Trail) : List String → Except Failure Target
  | [] =>
    match t.at? trail with
    | some entry => .ok (.present trail entry)
    | none => .ok (.free trail)
  | segment :: rest =>
    match t.at? trail with
    | none => .error .notFound
    | some (.file _) => .error .notDirectory
    | some .directory =>
      match Path.first? segment with
      | none | some .here | some .root => walk t trail rest
      | some .up => walk t trail.dropLast rest
      | some (.name name) => walk t (trail ++ [name]) rest

/-- Where a path leads. -/
def locate (t : Tree) (p : Path) : Except Failure Target :=
  if p.isEmpty then .error .notFound
  else t.walk (if p.rooted then [] else t.here) p.segments

/-- The entry at a path. -/
def find (t : Tree) (p : Path) : Except Failure Entry :=
  match t.locate p with
  | .ok (.present _ entry) => .ok entry
  | .ok (.free _) => .error .notFound
  | .error e => .error e

/-- Whether a path leads to a directory. -/
def isDirectory (t : Tree) (p : Path) : Bool :=
  match t.find p with
  | .ok .directory => true
  | _ => false

/-- Whether a path leads to a file. -/
def isFile (t : Tree) (p : Path) : Bool :=
  match t.find p with
  | .ok (.file _) => true
  | _ => false

/-! ## Reading -/

/-- The text of a file. -/
def readText (t : Tree) (p : Path) : Except Failure String :=
  match t.find p with
  | .ok (.file content) =>
    match String.fromUTF8? content with
    | some text => .ok text
    | none => .error .notText
  | .ok .directory => .error .isDirectory
  | .error e => .error e

/-- The paths of the entries of a directory. -/
def list (t : Tree) (p : Path) : List Path :=
  match t.locate p with
  | .ok (.present trail .directory) => (t.names trail).map fun name => p.join ⟨false, [name]⟩
  | _ => []

/-! ## Writing -/

/-- Makes a directory at a path where nothing is yet. -/
def makeDirectory (t : Tree) (p : Path) : Except Failure Tree :=
  match t.locate p.withoutSlashes with
  | .ok (.present ..) => .error .alreadyExists
  | .ok (.free trail) => .ok (t.put trail .directory)
  | .error e => .error e

/-- Makes a directory, which may be there already. -/
def ensureDirectory (t : Tree) (p : Path) : Except Failure Tree :=
  match t.makeDirectory p with
  | .ok t => .ok t
  | .error e => if t.isDirectory p then .ok t else .error e

/-- Makes the first of some directories and before it those of the others, each above the one before
it, that it needs. -/
def ensureAll (t : Tree) : List Path → Except Failure Tree
  | [] => .error .notFound
  | p :: above =>
    if p.isEmpty then .ok t
    else
      match t.ensureDirectory p with
      | .error .notFound => do
        let t ← t.ensureAll above
        t.ensureDirectory p
      | result => result

/-- Makes a directory and all directories above it that are missing. -/
def ensurePath (t : Tree) (p : Path) : Except Failure Tree := t.ensureAll p.ancestors

/-- Writes a text to a file, which may be there already. A path that ends in a slash asks for a
directory. -/
def writeText (t : Tree) (p : Path) (text : String) : Except Failure Tree :=
  match t.locate p.withoutSlashes with
  | .ok (.present _ .directory) => .error .isDirectory
  | .ok (.present trail (.file _)) | .ok (.free trail) =>
    if p.withoutSlashes = p then .ok (t.put trail (.file text.toUTF8)) else .error .isDirectory
  | .error e => .error e

/-! ## Building and comparing -/

/-- A tree with an entry at a trail and directories above it. -/
def plant (t : Tree) (trail : Trail) (entry : Entry) : Tree :=
  let t := (List.range trail.length).foldl (fun t n =>
    let above := trail.take n
    if (t.at? above).isSome then t else t.put above .directory) t
  t.put trail entry

/-- The tree that holds only the working directory. -/
def bare (here : Trail) : Tree := Tree.plant ⟨[], here⟩ here .directory

/-- A tree with an entry at a path from the working directory. -/
def add (t : Tree) (p : Path) (entry : Entry) : Tree :=
  t.plant (t.here ++ p.segments.filter fun s => !s.isEmpty) entry

/-- The files below the working directory that an earlier tree does not hold with the same content,
with their names from there. -/
def changedSince (t earlier : Tree) : List (Trail × ByteArray) :=
  t.entries.filterMap fun (trail, entry) =>
    match entry with
    | .file content =>
      if t.here.isPrefixOf trail ∧ earlier.at? trail ≠ some (.file content) then
        some (trail.drop t.here.length, content)
      else none
    | .directory => none

end Tree

end GoSchema.File
