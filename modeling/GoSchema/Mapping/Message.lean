import GoSchema.Error
import GoSchema.Mapping.Mapper

/-!
# Messages of records

A record becomes a message: its exported fields in order, tagged one, two, three and so on. What a
message says depends on the record and the mapper alone; the document it goes into only decides
whether there is room for it.
-/

namespace GoSchema.Mapping

open Schema

/-- Work that may fail on a declaration and may report events. -/
abbrev Making := ExceptT Refusal Logged

/-- The name a source field goes by, and whether the field is embedded. -/
def sourceName? (f : Go.Field) : Option (String × Bool) :=
  match f.name? with
  | some name => some (name, false)
  | none => f.type.baseName?.map (·, true)

/-- The entries of a tag whose first part is not the name of the field. -/
def differingTags (tag : Go.Tag) (fieldName : String) : List (String × String) :=
  tag.entries.filter fun entry => entry.2.toList.takeWhile (· != ',') != fieldName.toList

/-- Such entries as the text of a tag, if there are any. -/
def moreTags? (tag : Go.Tag) (fieldName : String) : Option String :=
  match differingTags tag fieldName with
  | [] => none
  | entries => some (" ".intercalate (entries.map fun (key, value) => key ++ ":\"" ++ value ++ "\""))

/-- The extensions of a field: whether it is embedded, its Go name if that is lost, and what its tag
says beyond the name. -/
def extensionsOf (f : Go.Field) (name : String) (embedded : Bool) : Extensions where
  customName? := if Naming.goCase (Naming.snakeCase name) = name then none else some name
  embed := embedded
  moreTags? := moreTags? f.tag (Naming.snakeCase name)

namespace Mapper

/-- The schema fields of source fields, the first of which takes a given tag. Fields without a name and
unexported fields take none. -/
def fields (m : Mapper) (record : String) (tag : Nat) : List Go.Field → Making (List Field)
  | [] => return []
  | f :: rest =>
    match sourceName? f with
    | none => do
      Logged.report (.namelessField record f.pos.line)
      m.fields record tag rest
    | some (name, embedded) =>
      if !Naming.isExported name then do
        Logged.report (.unexportedField record name)
        m.fields record tag rest
      else do
        let type ← m.fieldType f.type
        if type.repeated && type.optional then
          throw ⟨record, .optionalRepeated (Naming.snakeCase name) record⟩
        let field : Field :=
          ⟨Naming.snakeCase name, f.docs, tag, type, extensionsOf f name embedded⟩
        return field :: (← m.fields record (tag + 1) rest)

/-- The message of a record. -/
def message (m : Mapper) (name docs : String) (fields : List Go.Field) : Making Message := do
  return ⟨name, docs, ← m.fields name 1 fields⟩

end Mapper

/-! ## Into a document -/

/-- The files that a document with this message imports: those that declare the messages its fields
refer to, and the extension options if it uses them. -/
def importsOf (message : Message) : List String :=
  message.fields.filterMap (·.type.origin?) ++
    if message.fields.any Field.usesExtensions then [extensionsFile] else []

/-- Work on a document that may fail and may report events. What was done before a failure stays. -/
abbrev Building := ExceptT Refusal (StateT Document Logged)

namespace Building

/-- Does work that needs no document. -/
def make {α : Type} (x : Making α) : Building α := ExceptT.mk (liftM x.run)

/-- Reports an event. -/
def report (e : Event) : Building Unit := liftM (Logged.report e)

/-- Adds a message and what it imports. If the document holds a message of that name already, its
fields have to be the same, and it stays. -/
def register (message : Message) : Building Message := do
  let doc ← get
  if (doc.message? message.name).isSome then
    report (.messagePresent message.name doc.fileName)
  match doc.addMessage message with
  | .ok (held, doc) =>
    set ((importsOf message).foldl Document.addImport doc)
    return held
  | .error problem => throw ⟨message.name, problem⟩

/-- Adds the message of a record. -/
def record (m : Mapper) (name docs : String) (fields : List Go.Field) : Building Message := do
  register (← make (m.message name docs fields))

end Building

end GoSchema.Mapping
