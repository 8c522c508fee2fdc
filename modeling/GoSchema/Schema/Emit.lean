import GoSchema.Schema.Comment
import GoSchema.Schema.OptionValue
import GoSchema.Schema.Verify

/-!
# Writing documents

A document is laid out as a list of lines: blank ones, comments, and the lines of the schema itself.
Documentation shows only in the first two kinds. The text of a document is the text of its lines; only
a document without faults is written.
-/

namespace GoSchema.Schema

/-- A line of a document. -/
inductive Line where
  | blank
  /-- A comment with its words. -/
  | comment (depth : Nat) (words : List (List Char))
  /-- A line of the schema. -/
  | code (depth : Nat) (text : String)
deriving Repr, DecidableEq

namespace Line

/-- The blanks in front of a line. -/
def indent (depth : Nat) : String := String.ofList (List.replicate (2 * depth) ' ')

/-- The text of a line, with its end. -/
def render : Line → String
  | blank => "\n"
  | comment depth [] => indent depth ++ "//\n"
  | comment depth words => indent depth ++ "// " ++ String.ofList ([' '].intercalate words) ++ "\n"
  | code depth text => indent depth ++ text ++ "\n"

/-- The comment lines of a documentation text. -/
def comments (docs : String) (depth : Nat) : List Line :=
  (Comment.lines docs depth).map (comment depth)

/-- The lines of documented members. A blank line sets two of them apart if either is documented;
`before?` is the documentation of the member before. -/
def members (before? : Option String) : List (String × String) → List Line
  | [] => []
  | (docs, text) :: rest =>
    let separate := before?.any fun before => !(Comment.isBlank before && Comment.isBlank docs)
    (if separate then [blank] else []) ++ comments docs 1 ++ code 1 text :: members (some docs) rest

/-- The lines of a documented item with a body of members. -/
def block (docs head : String) (body : List (String × String)) : List Line :=
  comments docs 0 ++
    if body.isEmpty then [code 0 (head ++ " \x7b\x7d")]
    else code 0 (head ++ " \x7b") :: members none body ++ [code 0 "\x7d"]

end Line

/-- The lines of a message. -/
def Message.lines (m : Message) : List Line :=
  Line.block m.docs ("message " ++ m.name) (m.fields.map fun f => (f.docs, f.declaration ++ ";"))

/-- The declaration of a method. -/
def Method.declaration (m : Method) : String :=
  "rpc " ++ m.name ++ "(" ++ m.argument ++ ") returns (" ++ m.returns ++ ");"

/-- The lines of a service. -/
def Service.lines (s : Service) : List Line :=
  Line.block s.docs ("service " ++ s.name) (s.methods.map fun m => (m.docs, m.declaration))

namespace Document

/-- The lines of a section, set apart from what is above it if it has any. -/
def sectionLines : List String → List Line
  | [] => []
  | texts => .blank :: texts.map (.code 0)

/-- The lines of a document. -/
def lines (doc : Document) : List Line :=
  [.code 0 "syntax = \"proto3\";", .code 0 ("package " ++ doc.package ++ ";")] ++
  sectionLines (doc.imports.toList.map fun path => "import \"" ++ path ++ "\";") ++
  sectionLines (doc.options.entries.map fun (key, value) =>
    "option " ++ key ++ " = " ++ OptionValue.render value ++ ";") ++
  doc.messages.flatMap (fun m => .blank :: m.lines) ++
  doc.services.flatMap (fun s => .blank :: s.lines)

/-- The text of a document. -/
def render (doc : Document) : String := String.join (doc.lines.map Line.render)

/-- The text of a document without faults. -/
def emit (doc : Document) : Except Problem String := do
  doc.verify
  return doc.render

end Document

end GoSchema.Schema
