import GoSchema.Go.TypeExpr.Parser
import GoSchema.Log

/-!
# Reading declarations

The bodies of structs and interfaces, and the type declarations that hold them. Two kinds of
declaration have no counterpart in a schema and are passed over with a warning: those with type
parameters, and interfaces that only constrain type parameters.
-/

namespace GoSchema.Go

/-- Reading that may fail and may report events. -/
abbrev Reading := ExceptT Fault Logged

namespace Cursor

/-! ## Structs -/

/-- Whether a token ends a field. -/
def endsField (t : Token) : Bool :=
  [.newline, .str, .comment, .finish].contains t.kind || t.is ";" || t.is Token.closeBrace

/-- Whether the field at the cursor is embedded. -/
def beginsEmbedded (c : Cursor) : Bool :=
  c.current.is "*" ||
    (c.current.kind == .ident && ((c.ahead 1).is "." || endsField (c.ahead 1)))

/-- The tag of a field, if a literal comes next. -/
def parseTag (c : Cursor) : Tag × c.Within :=
  match c.next? with
  | some (t, ⟨d, h⟩) =>
    if t.kind = .str then (Tag.ofLiteral t.text, ⟨d, le_of_later h⟩)
    else (Tag.empty, ⟨c, left_le c⟩)
  | none => (Tag.empty, ⟨c, left_le c⟩)

/-- Identifiers between commas. -/
def parseNames (c : Cursor) : Except Fault (List Token × c.Later) := do
  let (name, ⟨d, hd⟩) ← c.expectIdent
  match d.eat? "," with
  | none => return ([name], ⟨d, hd⟩)
  | some ⟨e, he⟩ =>
    have he := later_trans he hd
    have : e.skipTrivia.left < c.left := later_of_within e.left_skipTrivia_le he
    let (names, ⟨f, hf⟩) ← parseNames e.skipTrivia
    have hf := later_of_skipTrivia hf
    return (name :: names, ⟨f, later_trans hf he⟩)
termination_by c.left

/-- The fields that one line of a struct declares: an embedded one, or one for each name. -/
def parseFieldLine (c : Cursor) (docs : String) : Except Fault (List Field × c.Later) :=
  if c.beginsEmbedded then do
    let (type, ⟨d, hd⟩) ← c.parseType
    let (tag, ⟨e, he⟩) := d.parseTag
    return ([⟨none, type, tag, docs, c.current.pos⟩], ⟨e, later_of_within he hd⟩)
  else do
    let (names, ⟨d, hd⟩) ← c.parseNames
    let (type, ⟨e, he⟩) ← d.parseType
    have he := later_trans he hd
    let (tag, ⟨f, hf⟩) := e.parseTag
    return (names.map fun name => ⟨some name.text, type, tag, docs, name.pos⟩,
      ⟨f, later_of_within hf he⟩)

/-- The fields up to the end of a struct. -/
def parseFields (c : Cursor) : Except Fault (List Field × c.Later) :=
  let d := c.skipTrivia
  if let some ⟨e, he⟩ := d.eat? Token.closeBrace then
    return ([], ⟨e, later_of_skipTrivia he⟩)
  else if d.isAtEnd then
    .error d.unexpected
  else do
    let (fields, ⟨e, he⟩) ← d.forget.parseFieldLine (d.docs d.current.pos.line)
    have he := skipTrailingComment_later he
    if !endsField e.skipTrailingComment.current then
      throw e.skipTrailingComment.unexpected
    let (more, ⟨f, hf⟩) ← parseFields e.skipTrailingComment
    return (fields ++ more, ⟨f, later_of_skipTrailingComment hf he⟩)
termination_by c.left

/-- The body of a struct. -/
def parseStruct (c : Cursor) : Except Fault (List Field × c.Later) := do
  let ⟨d, hd⟩ ← c.expect Token.openBrace
  let (fields, ⟨e, he⟩) ← d.forget.parseFields
  return (fields, ⟨e, later_of_forget he hd⟩)

/-! ## Interfaces -/

/-- Whether a token ends a member of an interface. -/
def endsMember (t : Token) : Bool :=
  t.kind == .newline || t.kind == .finish || t.is ";" || t.is Token.closeBrace

/-- One member of an interface: a method or an embedded type. A constraint on type parameters is none
and the rest of the interface is passed. -/
def parseMember (c : Cursor) (docs : String) : Except Fault (Option Member × c.Later) :=
  if c.current.kind = .ident ∧ (c.ahead 1).is "(" then do
    let (name, ⟨d, hd⟩) ← c.expectIdent
    let (params, ⟨e, he⟩) ← d.parseParams
    have he := later_trans he hd
    let (results, ⟨f, hf⟩) ← e.parseResults
    return (some (.method name.text params results docs name.pos), ⟨f, later_of_within hf he⟩)
  else if c.current.is "~" then do
    let d ← c.skipBalanced Token.openBrace Token.closeBrace 0
    return (none, d)
  else do
    let (type, ⟨d, hd⟩) ← c.parseType
    if d.current.is "|" then
      let ⟨e, he⟩ ← d.skipBalanced Token.openBrace Token.closeBrace 0
      return (none, ⟨e, later_trans he hd⟩)
    return (some (.embedded (some type) docs c.current.pos), ⟨d, hd⟩)

/-- The members up to the end of an interface, or nothing for one that constrains type parameters. -/
def parseMembers (c : Cursor) : Except Fault (Option (List Member) × c.Later) :=
  let d := c.skipTrivia
  if let some ⟨e, he⟩ := d.eat? Token.closeBrace then
    return (some [], ⟨e, later_of_skipTrivia he⟩)
  else if d.isAtEnd then
    .error d.unexpected
  else do
    let (member?, ⟨e, he⟩) ← d.forget.parseMember (d.docs d.current.pos.line)
    match member? with
    | none => return (none, ⟨e, later_of_skipTrivia he⟩)
    | some member =>
      have he := skipTrailingComment_later he
      if !endsMember e.skipTrailingComment.current then
        throw e.skipTrailingComment.unexpected
      let (members?, ⟨f, hf⟩) ← parseMembers e.skipTrailingComment
      return (members?.map (member :: ·), ⟨f, later_of_skipTrailingComment hf he⟩)
termination_by c.left

/-- The body of an interface. -/
def parseInterface (c : Cursor) : Except Fault (Option (List Member) × c.Later) := do
  let ⟨d, hd⟩ ← c.expect Token.openBrace
  let (members?, ⟨e, he⟩) ← d.forget.parseMembers
  return (members?, ⟨e, later_of_forget he hd⟩)

/-! ## Type declarations -/

/-- Whether type parameters follow, and not the length of an array: a name in brackets that is
followed by something a constant expression cannot go on with. -/
def beginsTypeParams (c : Cursor) : Bool :=
  let third := c.ahead 2
  c.current.is "[" && (c.ahead 1).kind == .ident &&
    (third.kind == .ident || [",", "~", "*"].any third.is)

/-- The type that a declaration gives to its name, or nothing for an interface that constrains type
parameters. -/
def parseKind (c : Cursor) : Except Fault (Option Declaration.Kind × c.Later) :=
  if let some ⟨d, hd⟩ := c.eat? "struct" then do
    let (fields, ⟨e, he⟩) ← d.parseStruct
    return (some (.record fields), ⟨e, later_trans he hd⟩)
  else if let some ⟨d, hd⟩ := c.eat? "interface" then do
    let (members?, ⟨e, he⟩) ← d.parseInterface
    return (members?.map .contract, ⟨e, later_trans he hd⟩)
  else do
    let (type, d) ← c.parseType
    return (some (.defined type), d)

/-- A type declaration after the word `type`, or nothing for one that is passed over. An alias is
read like any other declaration. -/
def parseDeclaration (file docs : String) (c : Cursor) :
    Reading (Option Declaration × c.Later) := do
  let (name, ⟨d, hd⟩) ← c.expectIdent
  if d.beginsTypeParams then
    Logged.report (.genericType name.text file name.pos.line)
    let ⟨e, he⟩ := d.advance
    let ⟨f, hf⟩ ← e.skipBalanced "[" "]" 0
    have hf := later_trans (later_trans_within hf he) hd
    let ⟨g, hg⟩ := f.skipStatement 0
    return (none, ⟨g, later_of_within hg hf⟩)
  let (_, ⟨e, he⟩) := d.eatIf "="
  have he := later_of_within he hd
  let (kind?, ⟨f, hf⟩) ← e.parseKind
  match kind? with
  | some kind => return (some ⟨name.text, docs, file, name.pos, kind⟩, ⟨f, later_trans hf he⟩)
  | none =>
    Logged.report (.typeSet name.text file name.pos.line)
    return (none, ⟨f, later_trans hf he⟩)

end Cursor

end GoSchema.Go
