import GoSchema.Mapping.Message

/-!
# Services of contracts

A contract becomes a service with one method for each of its methods. A method of a service takes
exactly one message and returns exactly one, so the parameters and the results of a Go method are
brought down to one message each: one that exists already, a list of such messages, or a wrapper made
for the method.
-/

namespace GoSchema.Mapping

open Schema Go

/-- The end of the name of a wrapper of parameters. -/
def argumentSuffix : String := "Op"

/-- The end of the name of a wrapper of results. -/
def returnSuffix : String := "Result"

/-! ## Members of a list -/

/-- Parameters without the context that leads them. -/
def withoutContext : List Param → List Param
  | first :: rest => if first.type = .named (some "context") "Context" then rest else first :: rest
  | [] => []

/-- Results without the error that ends them. -/
def withoutError (results : List Param) : List Param :=
  match results.getLast? with
  | some last => if last.type = .ofName "error" then results.dropLast else results
  | none => results

/-- A field with a name and a type and nothing else. -/
def plainField (name : String) (type : TypeExpr) : Go.Field :=
  ⟨some name, type, Tag.empty, "", ⟨0, 0⟩⟩

/-- The sequence of the elements of a type, by value. Pointers and arrays are sequences like any
other, so that every list of one element has the same form. -/
def elementsByValue : TypeExpr → TypeExpr
  | .pointer inner => elementsByValue inner
  | .slice (.pointer target) | .array _ (.pointer target) => .slice target
  | .slice element | .array _ element => .slice element
  | t => t

/-- The name that a member of a wrapper goes by before others are taken into account. -/
def memberName (p : Param) : String :=
  let name := ((p.name?.or p.type.baseName?).map Naming.exportedName).getD ""
  if name.isEmpty then "Value" else name

/-- A name with a number after it, except for the first. -/
def numbered (base : String) : Nat → String
  | 0 => base
  | n + 1 => base ++ toString (n + 2)

/-- The first of the numbered forms of a name that is not used yet. One of them is free, because there
are more of them than names in use. -/
def freshName (used : List String) (base : String) : String :=
  (((List.range (used.length + 1)).map (numbered base)).find? fun name =>
    !used.contains name).getD base

/-- The fields of a wrapper with some members, given the names in use. -/
def wrapperFields (used : List String) : List Param → List Go.Field
  | [] => []
  | p :: rest =>
    let name := freshName used (memberName p)
    plainField name p.type :: wrapperFields (name :: used) rest

/-! ## One message for a list of members -/

/-- The message that stands for a list of members. -/
inductive Reduction where
  /-- A message that is declared elsewhere. -/
  | reuse (type : FieldType)
  /-- A message made for the purpose. -/
  | wrap (message : Message)
deriving Repr, DecidableEq

namespace Mapper

/-- The message that holds a list of messages. -/
def listMessage (m : Mapper) (element : String) (type : TypeExpr) : Making Message :=
  let fieldName := Naming.exportedName (Naming.plural (Naming.snakeCase element))
  m.message (element ++ "List") "" [plainField fieldName (elementsByValue type)]

/-- The message for the members of a method, where a wrapper would take the given name. -/
def reduce (m : Mapper) (wrapperName : String) (members : List Param) : Making Reduction := do
  if let [only] := members then
    let type ← m.fieldType only.type
    if type.isMessage && !type.repeated then
      return .reuse type
    if type.isMessage then
      return .wrap (← m.listMessage type.shortName only.type)
  return .wrap (← m.message wrapperName "" (wrapperFields [] members))

end Mapper

namespace Building

/-- Makes the message for a list of members known to the document and returns its name. -/
def settle (r : Reduction) : Building String :=
  match r with
  | .reuse type => do
    modify fun doc => type.origin?.elim doc doc.addImport
    return type.name
  | .wrap message => do
    let _ ← register message
    return message.name

/-- The method of a service for a method of a contract. -/
def method (m : Mapper) (stem name docs : String) (params results : List Param) :
    Building Schema.Method := do
  let argument ← settle (← make (m.reduce (stem ++ name ++ argumentSuffix) (withoutContext params)))
  let returns ← settle (← make (m.reduce (stem ++ name ++ returnSuffix) (withoutError results)))
  return ⟨name, docs, argument, returns⟩

/-- The methods for the members of a contract. An embedded contract has no method. -/
def methods (m : Mapper) (contract stem : String) : List Member → Building (List Schema.Method)
  | [] => return []
  | .embedded type? _ pos :: rest => do
    report (.embeddedContract contract ((type?.map TypeExpr.display).getD "") pos.line)
    methods m contract stem rest
  | .method name params results docs _ :: rest => do
    let method ← method m stem name docs params results
    return method :: (← methods m contract stem rest)

/-- Adds the service of a contract and the messages made for it. -/
def contract (m : Mapper) (name docs : String) (members : List Member) : Building Service := do
  let stem := Naming.serviceStem name
  let service : Service := ⟨stem, docs, ← methods m name stem members⟩
  match (← get).addService service with
  | .ok doc =>
    set doc
    return service
  | .error problem => throw ⟨name, problem⟩

end Building

end GoSchema.Mapping
