/-!
# Paths

A path is kept as it was written, cut at its slashes. What it means is given by its components:
repeated slashes and single points do not count, except for a point at the very beginning. Paths are
compared and ordered by their components, and shown as they were written.
-/

namespace GoSchema.File

/-- A path as it was written. -/
structure Path where
  /-- Whether it begins with a slash. -/
  rooted : Bool
  /-- The texts between slashes, after the leading one. -/
  segments : List String
deriving Repr, DecidableEq

/-- A step of a path. -/
inductive Component where
  | root | here | up
  | name (name : String)
deriving Repr, DecidableEq

namespace Component

/-- The place of a kind of component in the order of components. -/
def rank : Component → Nat
  | root => 0
  | here => 1
  | up => 2
  | name _ => 3

/-- Whether a component comes before another one. -/
def before (a b : Component) : Bool :=
  match a, b with
  | name s, name t => s < t
  | a, b => a.rank < b.rank

end Component

namespace Path

/-- Cuts a text into a path. -/
def ofString (text : String) : Path :=
  match text.toList with
  | '/' :: rest => ⟨true, (rest.splitOn '/').map String.ofList⟩
  | cs => ⟨false, (cs.splitOn '/').map String.ofList⟩

/-- The text of a path. -/
def toString (p : Path) : String := (if p.rooted then "/" else "") ++ "/".intercalate p.segments

/-- The path without components. -/
def empty : Path := ⟨false, []⟩

/-- Whether a path has no text. -/
def isEmpty (p : Path) : Bool := p.toString.isEmpty

/-- The component of a segment that is not the first of a path. -/
def inner? (segment : String) : Option Component :=
  if segment = "" ∨ segment = "." then none
  else if segment = ".." then some .up
  else some (.name segment)

/-- The component of the first segment of a path without a root. -/
def first? (segment : String) : Option Component :=
  if segment = "." then some .here else inner? segment

/-- The components of a path. -/
def components (p : Path) : List Component :=
  match p.rooted, p.segments with
  | true, segments => .root :: segments.filterMap inner?
  | false, [] => []
  | false, segment :: rest => (first? segment).toList ++ rest.filterMap inner?

/-! ## Parts of a path -/

/-- The name at the end of a path. -/
def fileName? (p : Path) : Option String :=
  match p.components.getLast? with
  | some (.name name) => some name
  | _ => none

/-- A file name without its extension. A point at the beginning of a name does not begin an
extension. -/
def stemOf (name : String) : String :=
  let cs := name.toList
  let stem := (cs.reverse.dropWhile (· != '.')).drop 1
  if stem.isEmpty then name else String.ofList stem.reverse

/-- The name at the end of a path without its extension. -/
def fileStem? (p : Path) : Option String := p.fileName?.map stemOf

/-- The segments without those at the end that do not count. The first segment of a path without a
root counts when it is a point. -/
def trimmed (p : Path) : List String :=
  match p.rooted, p.segments with
  | false, "." :: rest => "." :: dropIdle rest
  | _, segments => dropIdle segments
where
  /-- Drops the segments at the end that are no components. -/
  dropIdle (segments : List String) : List String :=
    (segments.reverse.dropWhile fun s => (inner? s).isNone).reverse

/-- The path without slashes at its end. -/
def withoutSlashes (p : Path) : Path :=
  { p with segments := (p.segments.reverse.dropWhile (·.isEmpty)).reverse }

/-- The path without its last component, if it has one that is not the root. -/
def parent? (p : Path) : Option Path :=
  match p.trimmed with
  | [] => none
  | segment :: rest =>
    let upper : Path := ⟨p.rooted, (segment :: rest).dropLast⟩
    some ⟨p.rooted, upper.trimmed⟩

/-- All paths above a path, the nearest first, the path itself in front. -/
def ancestors (p : Path) : List Path := go p p.segments.length
where
  /-- The paths above, at most so many. A parent has fewer segments, so there are no more than the
  path has segments. -/
  go (p : Path) : Nat → List Path
    | 0 => [p]
    | n + 1 =>
      match p.parent? with
      | some upper => p :: go upper n
      | none => [p]

/-- A path below another one. A rooted path stands for itself. -/
def join (p below : Path) : Path :=
  if below.rooted then below
  else if p.isEmpty then below
  else
    let upper := if p.segments.getLast? = some "" then p.segments.dropLast else p.segments
    ⟨p.rooted, upper ++ (if below.segments.isEmpty then [""] else below.segments)⟩

/-! ## Comparing -/

/-- Whether one path does not come after another in the order of their components. -/
def precedes (p q : Path) : Bool := go p.components q.components
where
  /-- The order of lists of components: by the first place where they differ. -/
  go : List Component → List Component → Bool
    | [], _ => true
    | _ :: _, [] => false
    | a :: as, b :: bs => a.before b || (a == b && go as bs)

/-- Whether two paths have the same components. -/
def same (p q : Path) : Bool := p.components == q.components

end Path

end GoSchema.File
