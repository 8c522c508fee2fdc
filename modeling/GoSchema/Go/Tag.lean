import GoSchema.Text.Trim

/-!
# Struct tags

A struct field may carry a literal with entries such as `json:"name,omitempty"`. Reading a tag never
fails: what is no entry is passed over.
-/

namespace GoSchema.Go

/-- The entries of a struct tag in their order. -/
structure Tag where
  entries : List (String × String)
deriving Repr, DecidableEq

namespace Tag

open Text

/-- The tag of a field without one. -/
def empty : Tag := ⟨[]⟩

/-- The value of the first entry of a key. -/
def get? (tag : Tag) (key : String) : Option String := tag.entries.lookup key

/-! ## The text of the literal -/

/-- Drops the backslash before every occurrence of a given character. -/
def unescape (c : Char) : List Char → List Char
  | [] => []
  | '\\' :: d :: rest => if d = c then c :: unescape c rest else '\\' :: unescape c (d :: rest)
  | d :: rest => d :: unescape c rest
termination_by s => s.length

/-- The text between the marks of a raw or an interpreted literal. -/
def content : List Char → List Char
  | '\x60' :: rest => trimEndWhile (· == '\x60') rest
  | '"' :: rest => unescape '\\' (unescape '"' (trimEndWhile (· == '"') rest))
  | literal => literal

/-! ## Entries -/

/-- A character of an entry's key. -/
def isKeyChar (c : Char) : Bool := c.isAlphanum || c == '_' || c == '.' || c == '-'

/-- Reads a value up to the quote that ends it. A backslash keeps the character after it, which is no
line end, in the value. -/
def readValue? : List Char → Option (List Char × List Char)
  | [] => none
  | '"' :: rest => some ([], rest)
  | '\\' :: c :: rest =>
    if c = '\n' then none
    else (readValue? rest).map fun (value, rest) => ('\\' :: c :: value, rest)
  | c :: rest =>
    if c = '\\' then none
    else (readValue? rest).map fun (value, rest) => (c :: value, rest)

/-- The entry at the beginning of a text, and the text after it. -/
def entryAt? (s : List Char) : Option ((String × String) × List Char) :=
  let key := s.takeWhile isKeyChar
  match key, s.dropWhile isKeyChar with
  | _ :: _, ':' :: '"' :: rest =>
    (readValue? rest).map fun (value, rest) => ((String.ofList key, String.ofList value), rest)
  | _, _ => none

theorem readValue?_shorter {s value rest : List Char} (h : readValue? s = some (value, rest)) :
    rest.length < s.length := by
  fun_induction readValue? s generalizing value rest <;> grind [Option.map_eq_some_iff]

theorem entryAt?_shorter {s rest : List Char} {entry : String × String}
    (h : entryAt? s = some (entry, rest)) : rest.length < s.length := by
  simp only [entryAt?] at h
  have hdrop := (List.dropWhile_suffix (l := s) isKeyChar).length_le
  split at h
  · obtain ⟨⟨value, after⟩, hread, heq⟩ := Option.map_eq_some_iff.1 h
    have := readValue?_shorter hread
    grind
  · simp at h

/-- The entries of a text, from left to right. -/
def entriesOf (s : List Char) : List (String × String) :=
  match s with
  | [] => []
  | c :: rest =>
    match h : entryAt? (c :: rest) with
    | some (entry, after) =>
      have := entryAt?_shorter h
      entry :: entriesOf after
    | none => entriesOf rest
termination_by s.length
decreasing_by
  all_goals
    simp only [List.length_cons] at *
    omega

/-- The tag that a literal stands for. -/
def ofLiteral (literal : String) : Tag := ⟨entriesOf (content literal.toList)⟩

end Tag

end GoSchema.Go
