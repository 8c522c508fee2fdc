import GoSchema.Go.Declaration
import GoSchema.Log
import GoSchema.Mapping.Overrides

/-!
# Resolving types

A mapper gives each source type of a package its field type. Primitive types have fixed counterparts;
a struct of the package becomes a reference to its message; a defined type resolves like the type that
it is defined over and is remembered as a cast. What remains is looked up in a table of overrides, and
a type that is not found there becomes a placeholder named after its key.

Definitions can go round in circles, so only a bounded number of them is followed.
-/

namespace GoSchema.Mapping

open Schema Go

/-- The beginning of a placeholder's name. -/
def unresolvedMark : String := "UNRESOLVED."

/-- The longest chain of definitions that is followed. -/
def maxDefinitions : Nat := 16

/-- The field type of a primitive type. Where the schema language lacks a width, the Go type becomes a
cast. -/
def primitive? : String → Option FieldType
  | "bool" => some (.scalar "bool")
  | "string" => some (.scalar "string")
  | "int64" => some (.scalar "int64")
  | "int32" => some (.scalar "int32")
  | "rune" => some (.scalar "int32")
  | "uint64" => some (.scalar "uint64")
  | "uint32" => some (.scalar "uint32")
  | "float64" => some (.scalar "double")
  | "float32" => some (.scalar "float")
  | "int" => some { FieldType.scalar "int64" with castType? := some "int" }
  | "int16" => some { FieldType.scalar "int32" with castType? := some "int16" }
  | "int8" => some { FieldType.scalar "int32" with castType? := some "int8" }
  | "uint" => some { FieldType.scalar "uint64" with castType? := some "uint" }
  | "uintptr" => some { FieldType.scalar "uint64" with castType? := some "uintptr" }
  | "uint16" => some { FieldType.scalar "uint32" with castType? := some "uint16" }
  | "uint8" => some { FieldType.scalar "uint32" with castType? := some "uint8" }
  | "byte" => some { FieldType.scalar "uint32" with castType? := some "byte" }
  | _ => none

/-- Resolves the types of a package. -/
structure Mapper where
  module : Module
  /-- The documents that declare the messages of the package. -/
  origins : TextMap String
  overrides : Overrides

/-- The field type of a source type, and the keys that were not found on the way to it. -/
structure Resolution where
  type : FieldType
  missing : List String
deriving Repr, DecidableEq

namespace Resolution

/-- A resolution that missed nothing. -/
def found (type : FieldType) : Resolution := ⟨type, []⟩

/-- Whether the type is a placeholder. -/
def isPlaceholder (type : FieldType) : Bool :=
  unresolvedMark.toList.isPrefixOf type.name.toList

/-- A pointer to a message may be absent, and so may nothing else. -/
def pointer (r : Resolution) : Resolution :=
  { r with type := { r.type with
      nonNullable := false
      optional := r.type.optional || (r.type.isMessage && !r.type.repeated) } }

/-- A type defined over a scalar is remembered as a cast. -/
def castTo (name : String) (r : Resolution) : Resolution :=
  if r.type.isMessage || r.type.repeated || isPlaceholder r.type then r
  else { r with type := { r.type with castType? := some name } }

end Resolution

namespace Mapper

/-- The key of a type in a table of overrides: the Go text of the type, after the name of the package
for a name that the package declares. -/
def key (m : Mapper) (t : TypeExpr) : String :=
  match t with
  | .named none name =>
    if m.module.declares name then m.module.name ++ "." ++ name else t.display
  | t => t.display

/-- The placeholder for a type. -/
def unresolved (m : Mapper) (t : TypeExpr) : Resolution :=
  ⟨.scalar (unresolvedMark ++ m.key t), [m.key t]⟩

/-- What the table of overrides says of a type. -/
def lookUp (m : Mapper) (t : TypeExpr) : Resolution :=
  match m.overrides.get? (m.key t) with
  | some type => .found type
  | none => m.unresolved t

/-- The reference to a message of the package. -/
def reference (m : Mapper) (name : String) : FieldType :=
  { FieldType.message name with origin? := m.origins.get? name }

/-- Resolves a type, where a given function resolves the types that definitions are over. Without one,
no definition is followed. -/
def resolveBy (m : Mapper) (follow? : Option (TypeExpr → Resolution)) : TypeExpr → Resolution
  | .named none name =>
    match (primitive? name).or (m.overrides.get? (m.key (.ofName name))) with
    | some type => .found type
    | none =>
      match (m.module.lookup? name).map Declaration.kind, follow? with
      | some (.record _), _ =>
        if Naming.isExported name then .found (m.reference name) else m.unresolved (.ofName name)
      | some (.defined underlying), some follow => (follow underlying).castTo name
      | _, _ => m.unresolved (.ofName name)
  | .named (some package) name => m.lookUp (.named (some package) name)
  | .map key value => m.lookUp (.map key value)
  | .verbatim text => m.lookUp (.verbatim text)
  | .pointer target => (m.resolveBy follow? target).pointer
  | .slice element => sequence (.slice element) element (m.resolveBy follow? element)
  | .array length element => sequence (.array length element) element (m.resolveBy follow? element)
where
  /-- The resolution of a sequence, given that of its elements. -/
  sequence (whole element : TypeExpr) (r : Resolution) : Resolution :=
    if element.isByte then .found (.scalar "bytes")
    -- The schema language has no sequences of sequences
    else if r.type.repeated then
      { m.lookUp whole with missing := r.missing ++ (m.lookUp whole).missing }
    else { r with type := { r.type with repeated := true, optional := false } }

/-- Resolves a type, following at most so many definitions. -/
def resolveWithin (m : Mapper) : Nat → TypeExpr → Resolution
  | 0 => m.resolveBy none
  | definitions + 1 => m.resolveBy (some (m.resolveWithin definitions))

/-- The field type of a source type, with the keys that are missing for it. -/
def resolve (m : Mapper) (t : TypeExpr) : Resolution := m.resolveWithin maxDefinitions t

/-- The field type of a source type. Missing keys are reported. -/
def fieldType (m : Mapper) (t : TypeExpr) : Logged FieldType :=
  let r := m.resolve t
  ⟨r.type, r.missing.map .unmappedType⟩

end Mapper

end GoSchema.Mapping
