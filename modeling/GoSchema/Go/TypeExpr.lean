/-!
# Type expressions

The types of fields, parameters and results as Go writes them.
-/

namespace GoSchema.Go

/-- A type as it is written. -/
inductive TypeExpr where
  /-- A name, with the package that it comes from if that is written before it. -/
  | named (package? : Option String) (name : String)
  | pointer (target : TypeExpr)
  | slice (element : TypeExpr)
  /-- An array, with the text of its length. -/
  | array (length : String) (element : TypeExpr)
  | map (key value : TypeExpr)
  /-- Any other type, as its source text. -/
  | verbatim (text : String)
deriving Repr, DecidableEq, Inhabited

namespace TypeExpr

/-- The type of a given name in the package itself. -/
def ofName (name : String) : TypeExpr := named none name

/-- The Go text of a type. -/
def display : TypeExpr → String
  | named none name => name
  | named (some package) name => package ++ "." ++ name
  | pointer target => "*" ++ target.display
  | slice element => "[]" ++ element.display
  | array length element => "[" ++ length ++ "]" ++ element.display
  | map key value => "map[" ++ key.display ++ "]" ++ value.display
  | verbatim text => text

/-- The name below pointers, slices and arrays. -/
def baseName? : TypeExpr → Option String
  | named _ name => some name
  | pointer inner | slice inner | array _ inner => inner.baseName?
  | map .. | verbatim _ => none

/-- Whether the type is the name of a byte, so that a sequence of it is a text of bytes. -/
def isByte (t : TypeExpr) : Bool := t == .ofName "byte" || t == .ofName "uint8"

end TypeExpr

end GoSchema.Go
