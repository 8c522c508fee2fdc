import GoSchema.Schema.Document

/-!
# Verifying documents

A document can be written when names are declared once, fields carry the tags one, two, three and so
on, every field and every method has its types, and no field is both optional and repeated. The
messages are looked at before the services, each in order, and the first fault found is reported.
-/

namespace GoSchema.Schema

namespace Message

/-- Checks fields against the names seen before them and the tag that comes next. -/
def checkFields (message : String) (seen : List String) (tag : Nat) : List Field → Except Problem Unit
  | [] => .ok ()
  | f :: rest =>
    if f.type.repeated && f.type.optional then .error (.optionalRepeated f.name message)
    else if f.type.name.isEmpty then .error (.violation (.fieldWithoutType f.name message))
    else if seen.contains f.name then .error (.violation (.fieldTwice f.name message))
    else if f.tag ≠ tag then .error (.violation (.wrongTag f.name message tag f.tag))
    else checkFields message (f.name :: seen) (tag + 1) rest

/-- Checks the fields of a message. -/
def verify (m : Message) : Except Problem Unit := checkFields m.name [] 1 m.fields

end Message

namespace Service

/-- Checks methods against the names seen before them. -/
def checkMethods (service : String) (seen : List String) : List Method → Except Problem Unit
  | [] => .ok ()
  | m :: rest =>
    if seen.contains m.name then .error (.violation (.methodTwice m.name service))
    else if m.argument.isEmpty || m.returns.isEmpty then
      .error (.violation (.methodWithoutType m.name service))
    else checkMethods service (m.name :: seen) rest

/-- Checks the methods of a service. -/
def verify (s : Service) : Except Problem Unit := checkMethods s.name [] s.methods

end Service

namespace Document

/-- Checks messages against the names seen before them. -/
def checkMessages (seen : List String) : List Message → Except Problem Unit
  | [] => .ok ()
  | m :: rest =>
    if seen.contains m.name then .error (.violation (.messageTwice m.name))
    else do
      m.verify
      checkMessages (m.name :: seen) rest

/-- Checks services against the names seen before them. -/
def checkServices (seen : List String) : List Service → Except Problem Unit
  | [] => .ok ()
  | s :: rest =>
    if seen.contains s.name then .error (.violation (.serviceTwice s.name))
    else do
      s.verify
      checkServices (s.name :: seen) rest

/-- Checks a document. -/
def verify (doc : Document) : Except Problem Unit := do
  checkMessages [] doc.messages
  checkServices [] doc.services

end Document

end GoSchema.Schema
