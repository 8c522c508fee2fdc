import GoSchema.Json.Reader
import GoSchema.Schema.Field
import GoSchema.TextMap

/-!
# Overrides

A table of field types for source types that have no counterpart of their own, keyed by the source
type's full name (`time.Time`, `shop.money`, `map[string]string`). A table can be given as a JSON
object. What it says of a type is either an object, in which unknown members do not count, or an array
of the members in a fixed order.
-/

namespace GoSchema

/-- A table of field types by the full names of source types. -/
abbrev Overrides := TextMap Schema.FieldType

namespace Schema.FieldType

/-! ## Reading field types -/

/-- The members of a field type in their fixed order. All but the name may be missing. -/
def memberNames : List String :=
  ["name", "kind", "repeated", "optional", "non_nullable", "cast_type", "origin"]

/-- The kind of a name. -/
def Kind.ofName? : String → Option Kind
  | "scalar" => some .scalar
  | "message" => some .message
  | _ => none

/-- A kind is given by its name, or by an object with the name as its only member and nothing in
it. -/
def Kind.ofJson? : Json → Option Kind
  | .object [(key, .null)] => (Json.string key).text?.bind ofName?
  | j => j.text?.bind ofName?

/-- A text that may be missing. -/
def optionalText? : Json → Option (Option String)
  | .null => some none
  | j => j.text?.map some

/-- A member that was given, read by a given reader, or the value for a missing one. -/
def memberOr {α : Type} (missing : α) (read : Json → Option α) : Option Json → Option α
  | none => some missing
  | some j => read j

/-- The field type of its members, each looked up by name. -/
def ofLookup? (member : String → Option Json) : Option FieldType := do
  let name ← (← member "name").text?
  let kind ← memberOr .scalar Kind.ofJson? (member "kind")
  let repeated ← memberOr false Json.bool? (member "repeated")
  let optional ← memberOr false Json.bool? (member "optional")
  let nonNullable ← memberOr false Json.bool? (member "non_nullable")
  let castType? ← memberOr none optionalText? (member "cast_type")
  let origin? ← memberOr none optionalText? (member "origin")
  return ⟨name, kind, repeated, optional, nonNullable, castType?, origin?⟩

/-- The members of an object by their names. Every name has to be a text, and no member of a field type
may stand twice. -/
def knownMembers? (members : List (List Text.Quoted.Piece × Json)) :
    Option (List (String × Json)) := do
  let named ← members.mapM fun (key, value) => do return (← (Json.string key).text?, value)
  let known := named.filter fun member => memberNames.contains member.1
  if (known.map (·.1)).Nodup then some known else none

/-- Reads a field type. -/
def ofJson? : Json → Option FieldType
  | .object members => do
    let known ← knownMembers? members
    ofLookup? fun name => known.lookup name
  | .array items =>
    if items.length ≤ memberNames.length then
      ofLookup? fun name => (memberNames.zip items).lookup name
    else none
  | _ => none

end Schema.FieldType

namespace Overrides

open Schema

/-- The table for types of the standard library. -/
def wellKnown : Overrides :=
  .ofList
    [("time.Time",
      { FieldType.message "google.protobuf.Timestamp" with
        origin? := some "google/protobuf/timestamp.proto" }),
     ("time.Duration", { FieldType.scalar "int64" with castType? := some "time.Duration" })]

/-- Reads the table that a JSON value stands for. Of several entries of one name the last one
counts. -/
def ofJson? : Json → Option Overrides
  | .object members => do
    let entries ← members.mapM fun (key, value) => do
      return (← (Json.string key).text?, ← FieldType.ofJson? value)
    return .ofList entries
  | _ => none

/-- Reads the table that a JSON text stands for. -/
def parse? (text : String) : Option Overrides := do
  ofJson? (← Json.parse? text.toList)

end Overrides

end GoSchema
