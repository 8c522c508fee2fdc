/-!
# What a run reports

Beside its result a run reports events: warnings about source text that has no place in a schema, and
details of its progress. They are values, kept in the order in which they arise, also when the run
fails in the end.
-/

namespace GoSchema

/-- Something a run reports. -/
inductive Event where
  /-- A declaration with type parameters was passed over. -/
  | genericType (declaration file : String) (line : Nat)
  /-- An interface that constrains type parameters was passed over. -/
  | typeSet (declaration file : String) (line : Nat)
  /-- A type has no counterpart in the schema; an override of this key would give it one. -/
  | unmappedType (key : String)
  /-- An embedded field has no name to go by. -/
  | namelessField (record : String) (line : Nat)
  /-- An interface embeds another one, which a service cannot. -/
  | embeddedContract (contract embedded : String) (line : Nat)
  /-- A field is not visible outside its package. -/
  | unexportedField (record field : String)
  /-- A document holds a message of this name already. -/
  | messagePresent (record document : String)
  | fileRead (file : String) (declarations : Nat)
  | selection (module : String) (selected total : Nat)
  | documentWritten (path : String) (bytes : Nat)
deriving Repr, DecidableEq

namespace Event

/-- How much an event matters. -/
inductive Level where
  | warning | detail
deriving Repr, DecidableEq

/-- How much an event matters: source text that has no place in a schema is worth a warning. -/
def level : Event → Level
  | genericType .. | typeSet .. | unmappedType .. | namelessField .. | embeddedContract .. => .warning
  | unexportedField .. | messagePresent .. | fileRead .. | selection .. | documentWritten .. => .detail

/-- The words for an event, without its details. -/
def message : Event → String
  | genericType .. => "skipping generic type declaration"
  | typeSet .. => "skipping type-set constraint interface"
  | unmappedType .. => "no schema mapping for type; add an override entry for it"
  | namelessField .. => "skipping embedded field without a type name"
  | embeddedContract .. => "skipping embedded contract; it has no RPC equivalent"
  | unexportedField .. => "skipping unexported field"
  | messagePresent .. => "message already registered"
  | fileRead .. => "parsed source file"
  | selection .. => "selected declarations"
  | documentWritten .. => "wrote schema document"

/-- The value of a detail of an event. -/
inductive Value where
  | text (s : String)
  | count (n : Nat)
deriving Repr, DecidableEq

/-- The details of an event by name. -/
def details : Event → List (String × Value)
  | genericType declaration file line | typeSet declaration file line =>
    [("declaration", .text declaration), ("file", .text file), ("line", .count line)]
  | unmappedType key => [("source_type", .text key)]
  | namelessField record line => [("record", .text record), ("line", .count line)]
  | embeddedContract contract embedded line =>
    [("service", .text contract), ("embedded", .text embedded), ("line", .count line)]
  | unexportedField record field => [("record", .text record), ("field", .text field)]
  | messagePresent record document => [("record", .text record), ("document", .text document)]
  | fileRead file declarations => [("file", .text file), ("declarations", .count declarations)]
  | selection module selected total =>
    [("module", .text module), ("selected", .count selected), ("total", .count total)]
  | documentWritten path bytes => [("path", .text path), ("bytes", .count bytes)]

end Event

/-- A value, and the events reported on the way to it. -/
structure Logged (α : Type) where
  value : α
  events : List Event

namespace Logged

variable {α β : Type}

instance : Monad Logged where
  pure a := ⟨a, []⟩
  bind x f := ⟨(f x.value).value, x.events ++ (f x.value).events⟩

/-- Reports one event. -/
def report (e : Event) : Logged Unit := ⟨(), [e]⟩

@[simp] theorem value_pure (a : α) : (pure a : Logged α).value = a := rfl

@[simp] theorem events_pure (a : α) : (pure a : Logged α).events = [] := rfl

@[simp] theorem value_bind (x : Logged α) (f : α → Logged β) :
    (x >>= f).value = (f x.value).value := rfl

@[simp] theorem events_bind (x : Logged α) (f : α → Logged β) :
    (x >>= f).events = x.events ++ (f x.value).events := rfl

@[simp] theorem value_report (e : Event) : (report e).value = () := rfl

@[simp] theorem events_report (e : Event) : (report e).events = [e] := rfl

@[ext] theorem ext {x y : Logged α} (hvalue : x.value = y.value) (hevents : x.events = y.events) :
    x = y := by
  cases x; cases y; simp_all

instance : LawfulMonad Logged :=
  LawfulMonad.mk' Logged
    (fun x => by ext1 <;> simp [Functor.map])
    (fun a f => by ext1 <;> simp)
    (fun x f g => by ext1 <;> simp)

end Logged

end GoSchema
