import GoSchema.Schema.Field
import GoSchema.TextMap

/-!
# Documents

A document is one schema file: its imports and options, its messages and its services. Messages and
services keep the order in which they were first added. A message may be added again as long as its
fields are the same; a service may not.
-/

namespace GoSchema.Schema

/-- A message with its fields. -/
structure Message where
  name : String
  docs : String
  fields : List Field
deriving Repr, DecidableEq

/-- A method of a service, with the names of the messages that it takes and gives. -/
structure Method where
  name : String
  docs : String
  argument : String
  returns : String
deriving Repr, DecidableEq

/-- A service with its methods. -/
structure Service where
  name : String
  docs : String
  methods : List Method
deriving Repr, DecidableEq

/-- A schema document. -/
structure Document where
  fileName : String
  package : String
  imports : TextSet
  options : TextMap String
  messages : List Message
  services : List Service
deriving DecidableEq

/-! ## What can be wrong with a document -/

/-- A rule of the schema language that a document breaks. -/
inductive Violation where
  | messageTwice (message : String)
  | serviceTwice (service : String)
  | fieldWithoutType (field message : String)
  | fieldTwice (field message : String)
  | wrongTag (field message : String) (expected actual : Nat)
  | methodTwice (method service : String)
  | methodWithoutType (method service : String)
deriving Repr, DecidableEq

/-- The words for a broken rule. -/
def Violation.message : Violation → String
  | messageTwice message => "The message " ++ quote message ++ " is defined twice"
  | serviceTwice service => "The service " ++ quote service ++ " is defined twice"
  | fieldWithoutType field message =>
    "The field " ++ quote field ++ " in " ++ quote message ++ " has no type"
  | fieldTwice field message =>
    "The field " ++ quote field ++ " is declared twice in " ++ quote message
  | wrongTag field message expected actual =>
    "The tag for field " ++ quote field ++ " in " ++ quote message ++ " must be " ++
      toString expected ++ " but is " ++ toString actual
  | methodTwice method service =>
    "The rpc " ++ quote method ++ " is declared twice in service " ++ quote service
  | methodWithoutType method service =>
    "The rpc " ++ quote method ++ " in service " ++ quote service ++
      " needs both an argument and a return type"

/-- Why something cannot be added to a document, or the document cannot be written. -/
inductive Problem where
  /-- Two messages of one name have different fields. -/
  | conflictingMessage (message document : String)
  | duplicateService (service document : String)
  | optionalRepeated (field message : String)
  | violation (v : Violation)
deriving Repr, DecidableEq

/-- The words for a problem. -/
def Problem.message : Problem → String
  | conflictingMessage message document =>
    "message \"" ++ message ++ "\" is declared twice in " ++ document ++ " with different fields"
  | duplicateService service document =>
    "service \"" ++ service ++ "\" is declared twice in " ++ document
  | optionalRepeated field message =>
    "field \"" ++ field ++ "\" of message \"" ++ message ++ "\" is both optional and repeated"
  | violation v => "Verifier error: " ++ v.message

/-! ## Building a document -/

namespace Document

/-- The document of a given name without content. -/
def empty (fileName package : String) : Document := ⟨fileName, package, .empty, .empty, [], []⟩

instance : Inhabited Document := ⟨empty "" ""⟩

/-- Adds an import, unless it is the document itself. -/
def addImport (doc : Document) (path : String) : Document :=
  if path = doc.fileName then doc else { doc with imports := doc.imports.add path }

/-- Gives a file option a value. -/
def setOption (doc : Document) (key value : String) : Document :=
  { doc with options := doc.options.insert key value }

/-- The first message of a name. -/
def message? (doc : Document) (name : String) : Option Message :=
  doc.messages.find? fun m => m.name == name

/-- The first service of a name. -/
def service? (doc : Document) (name : String) : Option Service :=
  doc.services.find? fun s => s.name == name

/-- Adds a message and returns the one that the document then holds under this name. A message with
the same fields may be there already and stays; one with other fields is in conflict with it. -/
def addMessage (doc : Document) (message : Message) : Except Problem (Message × Document) :=
  match doc.message? message.name with
  | some present =>
    if present.fields = message.fields then .ok (present, doc)
    else .error (.conflictingMessage message.name doc.fileName)
  | none => .ok (message, { doc with messages := doc.messages ++ [message] })

/-- Adds a service, whose name must be new. -/
def addService (doc : Document) (service : Service) : Except Problem Document :=
  match doc.service? service.name with
  | some _ => .error (.duplicateService service.name doc.fileName)
  | none => .ok { doc with services := doc.services ++ [service] }

end Document

end GoSchema.Schema
