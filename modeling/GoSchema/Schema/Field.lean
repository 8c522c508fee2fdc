import GoSchema.Text.Quoted

/-!
# Fields

The field of a message: its type, its tag, and the extension options that keep what the schema
language itself has no room for.
-/

namespace GoSchema.Schema

/-- Whether a type is a scalar or a message. -/
inductive FieldType.Kind where
  | scalar | message
deriving Repr, DecidableEq

/-- The type of a field. -/
structure FieldType where
  name : String
  kind : FieldType.Kind
  repeated : Bool
  optional : Bool
  /-- A message that is always present, as a struct held by value is. -/
  nonNullable : Bool
  /-- The Go type that a scalar stands for, if it is another one. -/
  castType? : Option String
  /-- The document that declares a message. -/
  origin? : Option String
deriving Repr, DecidableEq

namespace FieldType

/-- A scalar type. -/
def scalar (name : String) : FieldType := ⟨name, .scalar, false, false, false, none, none⟩

/-- A message held by value. -/
def message (name : String) : FieldType := ⟨name, .message, false, false, true, none, none⟩

/-- Whether the type is a message. -/
def isMessage (t : FieldType) : Bool := t.kind == .message

/-- The part of the name after its last point. -/
def shortName (t : FieldType) : String :=
  String.ofList (t.name.toList.reverse.takeWhile (· != '.')).reverse

end FieldType

/-- What is kept of a source field beside its type. -/
structure Extensions where
  /-- The source name, if it cannot be told from the schema name. -/
  customName? : Option String
  embed : Bool
  /-- The source annotations that say more than the name. -/
  moreTags? : Option String
deriving Repr, DecidableEq

/-- A field of a message. -/
structure Field where
  name : String
  docs : String
  tag : Nat
  type : FieldType
  extensions : Extensions
deriving Repr, DecidableEq

/-- The package of the extension options. -/
def extensionPackage : String := "ext"

/-- The file that declares the extension options. -/
def extensionsFile : String := "ext/ext.proto"

/-- The name of an extension option. -/
def extensionOption (name : String) : String := "(" ++ extensionPackage ++ "." ++ name ++ ")"

namespace Field

/-- The extension options of a field and their values, in a fixed order. -/
def options (f : Field) : List (String × String) :=
  (if f.extensions.embed then [(extensionOption "embed", "true")] else []) ++
  (f.extensions.customName?.map fun s => (extensionOption "customname", quote s)).toList ++
  (if f.type.isMessage && f.type.nonNullable then [(extensionOption "nullable", "false")] else []) ++
  (f.type.castType?.map fun s => (extensionOption "casttype", quote s)).toList ++
  (f.extensions.moreTags?.map fun s => (extensionOption "moretags", quote s)).toList

/-- Whether the field needs the extension options declared. -/
def usesExtensions (f : Field) : Bool := !f.options.isEmpty

/-- The word before the type that says how many values there are. -/
def label (f : Field) : String :=
  if f.type.repeated then "repeated " else if f.type.optional then "optional " else ""

/-- The options in brackets, or nothing if there are none. -/
def optionList (f : Field) : String :=
  if f.options.isEmpty then ""
  else " [" ++ ", ".intercalate (f.options.map fun (key, value) => key ++ " = " ++ value) ++ "]"

/-- The declaration of the field, without the semicolon after it. -/
def declaration (f : Field) : String :=
  f.label ++ f.type.name ++ " " ++ f.name ++ " = " ++ toString f.tag ++ f.optionList

end Field

end GoSchema.Schema
