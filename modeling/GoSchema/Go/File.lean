import GoSchema.Go.Declaration.Parser
import GoSchema.Go.Token.Scanner

/-!
# Files

A file is read for its package clause and its type declarations; imports, functions, constants and
variables are passed over.
-/

namespace GoSchema.Go

/-- What a file declares. -/
structure File where
  package : String
  declarations : List Declaration
deriving Repr, DecidableEq

namespace Cursor

/-- The declarations of a group up to its closing parenthesis. -/
def parseGroup (file : String) (c : Cursor) : Reading (List Declaration × c.Later) :=
  let d := c.skipTrivia
  if let some ⟨e, he⟩ := d.eat? ")" then
    return ([], ⟨e, later_of_skipTrivia he⟩)
  else if d.isAtEnd then
    throw d.unexpected
  else do
    let (declaration?, ⟨e, he⟩) ← d.forget.parseDeclaration file (d.docs d.current.pos.line)
    have he := later_of_skipTrivia he
    let (declarations, ⟨f, hf⟩) ← parseGroup file e
    return (declaration?.toList ++ declarations, ⟨f, later_trans hf he⟩)
termination_by c.left

/-- Passes an import, constant or variable declaration after its first word. -/
def skipDeclaration (c : Cursor) : Except Fault c.Within :=
  match c.eat? "(" with
  | some ⟨d, hd⟩ => do
    let ⟨e, he⟩ ← d.skipBalanced "(" ")" 0
    have he := later_trans he hd
    return ⟨e, le_of_later he⟩
  | none => .ok (c.skipStatement 0)

/-- The type declarations at the cursor: those of a group, or a single one that the comments above
its first word document. -/
def parseTypes (file : String) (line : Nat) (c : Cursor) : Reading (List Declaration × c.Within) :=
  match c.eat? "(" with
  | some ⟨d, hd⟩ => do
    let (declarations, ⟨e, he⟩) ← d.forget.parseGroup file
    have he := later_of_forget he hd
    return (declarations, ⟨e, le_of_later he⟩)
  | none => do
    let (declaration?, ⟨d, hd⟩) ← c.forget.parseDeclaration file (c.docs line)
    return (declaration?.toList, ⟨d, le_of_later hd⟩)

/-- The rest of a file: its last package clause, if there is one, and its declarations. -/
def parseRest (file : String) (package? : Option String) (c : Cursor) :
    Reading (Option String × List Declaration) :=
  have hc := c.left_skipTrivia_le
  match c.skipTrivia.next? with
  | none => return (package?, [])
  | some (t, ⟨d, hd⟩) =>
    if t.is "package" then do
      let (name, ⟨e, he⟩) ← d.expectIdent
      have : e.forget.left < c.left := by rw [left_forget]; omega
      parseRest file (some name.text) e.forget
    else if t.is "type" then do
      let (declarations, ⟨e, he⟩) ← d.parseTypes file t.pos.line
      have : e.left < c.left := by omega
      let (package?, more) ← parseRest file package? e
      return (package?, declarations ++ more)
    else if t.is "func" then do
      let ⟨e, he⟩ ← d.skipFunction 0 ""
      have : e.forget.left < c.left := by rw [left_forget]; omega
      parseRest file package? e.forget
    else if ["import", "const", "var"].any t.is then do
      let ⟨e, he⟩ ← d.skipDeclaration
      have : e.forget.left < c.left := by rw [left_forget]; omega
      parseRest file package? e.forget
    else
      throw c.skipTrivia.unexpected
termination_by c.left

end Cursor

namespace File

/-- Reads the tokens of a file. -/
def ofTokens (file : String) (tokens : List Token) : Reading File := do
  let (package?, declarations) ← (Cursor.ofTokens tokens).parseRest file none
  match package? with
  | some package => return ⟨package, declarations⟩
  | none => throw ⟨.missingPackage, .start⟩

/-- Reads the text of a file. -/
def ofText (file text : String) : Reading File := do
  let tokens ← Token.scan text
  ofTokens file tokens

end File

end GoSchema.Go
