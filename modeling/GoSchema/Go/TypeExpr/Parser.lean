import GoSchema.Go.Cursor
import GoSchema.Go.Declaration

/-!
# Reading types and parameter lists

Types, parameter lists and result lists are read together, because a function type holds parameters
and a parameter has a type. Each of these functions moves the cursor forward; that the reading ends
follows from it.
-/

namespace GoSchema.Go

/-! ## Parameter groups -/

/-- An entry of a parameter list as it is written: a name with a type, or one of the two alone. -/
inductive Param.Entry where
  | named (name : String) (type : TypeExpr)
  | bare (type : TypeExpr)
deriving Repr, DecidableEq

namespace Param

/-- The parameters of a list in which some entry has a name and a type. An entry without a type is a
name and shares the type of the entry after it. The second component is the type of the first
parameter. -/
def shareTypes : List Entry → Option (List Param × Option TypeExpr)
  | [] => some ([], none)
  | entry :: rest => do
    let (params, shared?) ← shareTypes rest
    match entry, shared? with
    | .named name type, _ => return (⟨some name, type⟩ :: params, some type)
    | .bare (.named none name), some type => return (⟨some name, type⟩ :: params, some type)
    | .bare _, _ => none

/-- Whether an entry has a name. -/
def Entry.isNamed : Entry → Bool
  | .named .. => true
  | .bare _ => false

/-- The type of an entry. -/
def Entry.type : Entry → TypeExpr
  | .named _ type | .bare type => type

/-- The parameters that a list of entries stands for, if it does not mix names and types. -/
def ofEntries? (entries : List Entry) : Option (List Param) :=
  if entries.any Entry.isNamed then (shareTypes entries).map (·.1)
  else some (entries.map fun entry => ⟨none, entry.type⟩)

end Param

/-! ## Types -/

namespace Cursor

/-- The text up to a closing bracket, which is the length of an array. -/
def arrayLength (c : Cursor) : Except Fault (String × c.Within) :=
  if c.current.is "]" then .ok ("", ⟨c, left_le c⟩)
  else
    match c.next? with
    | none => .error c.unexpected
    | some (t, ⟨d, h⟩) => do
      let (length, ⟨e, he⟩) ← arrayLength d
      have he := later_of_within he h
      return (t.text ++ length, ⟨e, le_of_later he⟩)
termination_by c.left

/-- A name that may be preceded by the name of its package. -/
def qualifiedName (c : Cursor) : Except Fault (TypeExpr × c.Later) := do
  let (first, ⟨d, hd⟩) ← c.expectIdent
  if d.current.is "." ∧ (d.ahead 1).kind = .ident then
    match d.next? with
    | some (_, ⟨e, he⟩) =>
      let (second, ⟨f, hf⟩) ← e.expectIdent
      have he := later_trans he hd
      return (.named (some first.text) second.text, ⟨f, later_trans hf he⟩)
    -- An end that says so is not passed, and then it is the name as well
    | none => return (.named (some first.text) d.current.text, ⟨d, hd⟩)
  else
    return (.ofName first.text, ⟨d, hd⟩)

/-- Words and signs that begin a type which is kept as its text. -/
def verbatimStarts : List String := ["chan", "<-", "func", "interface", "struct"]

/-- A variadic parameter is a sequence of what its type says. -/
def variadicType (variadic : Bool) (type : TypeExpr) : TypeExpr :=
  if variadic then .slice type else type

mutual

/-- The type at the cursor. A pointer and a type in parentheses begin with a token that is passed
before the type in them is read; where this token is an end, there is no progress. -/
def parseType (c : Cursor) : Except Fault (TypeExpr × c.Later) :=
  if c.current.is "*" then
    match c.next? with
    | some (_, ⟨d, hd⟩) => do
      let (target, ⟨e, he⟩) ← parseType d
      return (.pointer target, ⟨e, later_trans he hd⟩)
    | none => .error c.endless
  else if c.current.is "(" then
    match c.next? with
    | some (_, ⟨d, hd⟩) => do
      let (type, ⟨e, he⟩) ← parseType d
      let ⟨f, hf⟩ ← e.expect ")"
      have he := later_trans he hd
      return (type, ⟨f, later_trans hf he⟩)
    | none => .error c.endless
  else if c.current.is "[" then
    let ⟨d, hd⟩ := c.advance
    if let some ⟨e, he⟩ := d.eat? "]" then do
      have he := later_trans_within he hd
      let (element, ⟨f, hf⟩) ← parseType e
      return (.slice element, ⟨f, later_trans hf he⟩)
    else do
      let (length, ⟨e, he⟩) ← d.arrayLength
      have he := Nat.le_trans he hd
      let ⟨f, hf⟩ ← e.expect "]"
      have hf := later_trans_within hf he
      let (element, ⟨g, hg⟩) ← parseType f
      return (.array length element, ⟨g, later_trans hg hf⟩)
  else if c.current.is "map" then do
    let ⟨d, hd⟩ := c.advance
    let ⟨e, he⟩ ← d.expect "["
    have he := later_trans_within he hd
    let (key, ⟨f, hf⟩) ← parseType e
    have hf := later_trans hf he
    let ⟨g, hg⟩ ← f.expect "]"
    have hg := later_trans hg hf
    let (value, ⟨h, hh⟩) ← parseType g
    return (.map key value, ⟨h, later_trans hh hg⟩)
  else if verbatimStarts.any c.current.is then do
    let ⟨d, hd⟩ ← parseVerbatim c
    return (.verbatim (c.textUpTo d), ⟨d, hd⟩)
  else if c.current.kind = .ident then do
    let (name, ⟨d, hd⟩) ← c.qualifiedName
    -- An empty pair of brackets begins the type of what follows a name
    if d.current.is "[" ∧ !(d.ahead 1).is "]" then
      let ⟨e, he⟩ := d.advance
      let ⟨f, hf⟩ ← e.skipBalanced "[" "]" 0
      have hf := later_trans_within hf he
      return (.verbatim (c.textUpTo f), ⟨f, later_trans hf hd⟩)
    else
      return (name, ⟨d, hd⟩)
  else
    .error ⟨.expectedType c.current.text, c.current.pos⟩
termination_by 3 * c.left + 1

/-- Passes a channel, function, interface or struct type. -/
def parseVerbatim (c : Cursor) : Except Fault c.Later :=
  if let some ⟨d, hd⟩ := c.eat? "<-" then do
    let ⟨e, he⟩ ← d.expect "chan"
    have he := later_trans he hd
    let (_, ⟨f, hf⟩) ← parseType e
    return ⟨f, later_trans hf he⟩
  else if let some ⟨d, hd⟩ := c.eat? "chan" then do
    let (_, ⟨e, he⟩) := d.eatIf "<-"
    have he := later_of_within he hd
    let (_, ⟨f, hf⟩) ← parseType e
    return ⟨f, later_trans hf he⟩
  else if let some ⟨d, hd⟩ := c.eat? "func" then do
    let (_, ⟨e, he⟩) ← parseParams d
    have he := later_trans he hd
    let (_, ⟨f, hf⟩) ← parseResults e
    return ⟨f, later_of_within hf he⟩
  else
    match c.next? with
    | none => .error ⟨.expected Token.openBrace c.current.text, c.current.pos⟩
    | some (_, ⟨d, hd⟩) => do
      let ⟨e, he⟩ ← d.expect Token.openBrace
      have he := later_trans he hd
      let ⟨f, hf⟩ ← e.skipBalanced Token.openBrace Token.closeBrace 0
      return ⟨f, later_trans hf he⟩
termination_by 3 * c.left + 0

/-- The parameters between parentheses. -/
def parseParams (c : Cursor) : Except Fault (List Param × c.Later) := do
  let ⟨d, hd⟩ ← c.expect "("
  let (entries, ⟨e, he⟩) ← parseEntries d
  match Param.ofEntries? entries with
  | some params => return (params, ⟨e, later_trans he hd⟩)
  | none => throw ⟨.mixedParameters, e.current.pos⟩
termination_by 3 * c.left + 0

/-- The entries of a parameter list up to its closing parenthesis. -/
def parseEntries (c : Cursor) : Except Fault (List Param.Entry × c.Later) :=
  if let some ⟨d, hd⟩ := c.skipTrivia.eat? ")" then
    return ([], ⟨d, later_of_skipTrivia hd⟩)
  else do
    let (variadic, ⟨d, hd⟩) := c.skipTrivia.eatIf "..."
    have hd := within_of_skipTrivia hd
    let (first, ⟨e, he⟩) ← parseType d
    have he := later_trans_within he hd
    let (entry, ⟨f, hf⟩) : Param.Entry × e.Within ←
      if variadic || e.current.is "," || e.current.is ")" || e.current.kind == .newline then
        pure (.bare (variadicType variadic first), ⟨e, left_le e⟩)
      else
        match first with
        | .named none name => do
          let (variadic, ⟨f, hf⟩) := e.eatIf "..."
          let (type, ⟨g, hg⟩) ← parseType f
          have hg := later_trans_within hg hf
          pure (.named name (variadicType variadic type), ⟨g, le_of_later hg⟩)
        | _ => throw e.unexpected
    have hf := later_of_within hf he
    if let some ⟨g, hg⟩ := f.skipTrivia.eat? "," then
      have hg := later_trans (later_of_skipTrivia hg) hf
      let (entries, ⟨h, hh⟩) ← parseEntries g
      return (entry :: entries, ⟨h, later_trans hh hg⟩)
    else
      let ⟨g, hg⟩ ← f.skipTrivia.expect ")"
      have hg := later_of_skipTrivia hg
      return ([entry], ⟨g, later_trans hg hf⟩)
termination_by 3 * c.left + 2

/-- The results after a parameter list: a list of them, a single type or nothing. -/
def parseResults (c : Cursor) : Except Fault (List Param × c.Within) :=
  if c.current.is "(" then do
    let (params, ⟨d, hd⟩) ← parseParams c
    return (params, ⟨d, le_of_later hd⟩)
  else if c.current.kind = .ident ∨ ["*", "[", "<-"].any c.current.is then do
    let (type, ⟨d, hd⟩) ← parseType c
    return ([⟨none, type⟩], ⟨d, le_of_later hd⟩)
  else
    return ([], ⟨c, left_le c⟩)
termination_by 3 * c.left + 2

end

end Cursor

end GoSchema.Go
