import GoSchema.Text.Quoted

/-!
# Positions and faults

What can be wrong with a Go source text, and where.
-/

namespace GoSchema.Go

/-- A place in a text. Lines and columns count from one, columns in characters. -/
structure Position where
  line : Nat
  column : Nat
deriving Repr, DecidableEq

namespace Position

/-- The first place of a text. -/
def start : Position := ⟨1, 1⟩

/-- The place after a character. -/
def next (p : Position) (c : Char) : Position :=
  if c = '\n' then ⟨p.line + 1, 1⟩ else ⟨p.line, p.column + 1⟩

/-- The place after a text. -/
def after (p : Position) (s : List Char) : Position := s.foldl next p

end Position

/-- Why a Go source text is refused. -/
inductive Fault.Cause where
  /-- Characters that begin no token. -/
  | strayText (text : String)
  | expected (wanted found : String)
  | expectedIdentifier (found : String)
  | expectedType (found : String)
  | unexpectedToken (found : String)
  | unexpectedEnd
  /-- A parameter list names some parameters and leaves others, which are no names, unnamed. -/
  | mixedParameters
  | missingPackage
  /-- A type is wanted where the text ends, and the end says that one begins behind it. Nothing is
  behind an end, so the type is looked for in the same place again, and reading never stops. -/
  | endless
deriving Repr, DecidableEq

/-- The words for a cause. -/
def Fault.Cause.message : Fault.Cause → String
  | strayText text => "Syntax error: " ++ quote text
  | expected wanted found => "Expected " ++ quote wanted ++ " but found " ++ quote found
  | expectedIdentifier found => "Expected identifier but found " ++ quote found
  | expectedType found => "Expected type but found " ++ quote found
  | unexpectedToken found => "Unexpected token " ++ quote found
  | unexpectedEnd => "Unexpected token " ++ quote "end of file"
  | mixedParameters => "Mixed named and unnamed parameters"
  | missingPackage => "Missing package clause"
  | endless => "Type without an end"

/-- Why a text is refused, and at which place. -/
structure Fault where
  cause : Fault.Cause
  pos : Position
deriving Repr, DecidableEq

end GoSchema.Go
