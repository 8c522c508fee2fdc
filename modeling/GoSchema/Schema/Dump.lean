import GoSchema.Json.Printer
import GoSchema.Schema.Document

/-!
# The JSON form of a document

The document model as JSON, for inspection. A member that holds nothing is left out.
-/

namespace GoSchema.Schema

/-- A member of an object, unless it holds nothing. -/
def optionalMember (key : String) (value? : Option String) : List (String × Json) :=
  (value?.map fun value => (key, .ofText value)).toList

/-- The name of a kind of types. -/
def FieldType.Kind.name : FieldType.Kind → String
  | scalar => "scalar"
  | message => "message"

/-- The object of a type. A cast and an origin are members only if there is one. -/
def FieldType.toJson (t : FieldType) : Json :=
  .ofMembers <|
    [("name", .ofText t.name), ("kind", .ofText t.kind.name), ("repeated", .bool t.repeated),
      ("optional", .bool t.optional), ("non_nullable", .bool t.nonNullable)] ++
    optionalMember "cast_type" t.castType? ++ optionalMember "origin" t.origin?

/-- The object of what is kept beside a type. -/
def Extensions.toJson (e : Extensions) : Json :=
  .ofMembers <|
    optionalMember "customname" e.customName? ++ [("embed", .bool e.embed)] ++
    optionalMember "moretags" e.moreTags?

/-- The object of a field. -/
def Field.toJson (f : Field) : Json :=
  .ofMembers
    [("name", .ofText f.name), ("docs", .ofText f.docs), ("tag", .ofNat f.tag),
      ("type_", f.type.toJson), ("extensions", f.extensions.toJson)]

/-- The object of a message, with its fields in their order. -/
def Message.toJson (m : Message) : Json :=
  .ofMembers
    [("name", .ofText m.name), ("docs", .ofText m.docs),
      ("fields", .array (m.fields.map Field.toJson))]

/-- The object of a method. -/
def Method.toJson (m : Method) : Json :=
  .ofMembers
    [("name", .ofText m.name), ("docs", .ofText m.docs), ("argument", .ofText m.argument),
      ("returns", .ofText m.returns)]

/-- The object of a service, with its methods in their order. -/
def Service.toJson (s : Service) : Json :=
  .ofMembers
    [("name", .ofText s.name), ("docs", .ofText s.docs),
      ("methods", .array (s.methods.map Method.toJson))]

/-- The object of a document.  Imports and options are in the order of their texts, messages and
services in the order in which they were added. -/
def Document.toJson (doc : Document) : Json :=
  .ofMembers
    [("file_name", .ofText doc.fileName), ("package", .ofText doc.package),
      ("imports", .array (doc.imports.toList.map .ofText)),
      ("options", .ofMembers (doc.options.entries.map fun (key, value) => (key, .ofText value))),
      ("messages", .array (doc.messages.map Message.toJson)),
      ("services", .array (doc.services.map Service.toJson))]

/-- The JSON text of a document. -/
def Document.dump (doc : Document) : String := doc.toJson.pretty

end GoSchema.Schema
