import GoSchema.Go.Fault
import GoSchema.Go.Tag
import GoSchema.Go.TypeExpr
import GoSchema.Naming

/-!
# Declarations

The type declarations of a Go package. A struct is a record, an interface a contract; every other
type is defined over the type that it names.
-/

namespace GoSchema.Go

/-- A field of a struct. A field without a name is embedded. -/
structure Field where
  name? : Option String
  type : TypeExpr
  tag : Tag
  docs : String
  pos : Position
deriving Repr, DecidableEq

/-- A parameter or a result of a method. -/
structure Param where
  name? : Option String
  type : TypeExpr
deriving Repr, DecidableEq

/-- A member of an interface. -/
inductive Member where
  | method (name : String) (params results : List Param) (docs : String) (pos : Position)
  | embedded (type? : Option TypeExpr) (docs : String) (pos : Position)
deriving Repr, DecidableEq

/-- What is declared: a struct with its fields, an interface with its members, or a name for another
type. -/
inductive Declaration.Kind where
  | record (fields : List Field)
  | contract (members : List Member)
  | defined (type : TypeExpr)
deriving Repr, DecidableEq

/-- The declaration of a type, with the place of its name. -/
structure Declaration where
  name : String
  docs : String
  file : String
  pos : Position
  kind : Declaration.Kind
deriving Repr, DecidableEq

/-- Whether other packages see the declaration. -/
def Declaration.isExported (d : Declaration) : Bool := Naming.isExported d.name

/-- A package: its declarations in the order of its files. -/
structure Module where
  name : String
  declarations : List Declaration
deriving Repr, DecidableEq

namespace Module

/-- The declaration of a name. Of several declarations of one name the last one counts. -/
def lookup? (m : Module) (name : String) : Option Declaration :=
  m.declarations.reverse.find? fun d => d.name == name

/-- Whether the package declares a name. -/
def declares (m : Module) (name : String) : Bool := (m.lookup? name).isSome

end Module

end GoSchema.Go
