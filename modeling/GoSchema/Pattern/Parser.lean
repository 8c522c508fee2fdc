import GoSchema.Pattern.Class
import GoSchema.Text.Quoted
import GoSchema.Text.Rest

/-!
# Reading patterns

The syntax of patterns: alternatives, groups, repetitions, bracketed sets with their set operations,
escapes and flags. What a pattern captures does not matter here, but the names of its groups have to
be well formed and different. There are no references to groups and no looking around.

The filters that are meant name characters by their general category, their script or one of the
properties in `CharSet.binaryProperties`, and ask for at most `maxSize` characters when their
repetitions are written out. A pattern with another property, such as `\p{Emoji}`, `\p{Dash}`,
`\p{Math}`, `\p{age=3.0}` or `\p{gcb=CR}`, is refused here, although it is one that could be
searched for; the extensions of a script (`scx`) are taken to be the script itself; and `maxSize`
only approaches the room that a pattern takes up when it is prepared for searching.
-/

namespace GoSchema.Pattern

open Text

/-- How the text of a pattern is understood. -/
structure Flags where
  ignoreCase : Bool
  multiLine : Bool
  dotAll : Bool
  unicode : Bool
  /-- White space and comments do not count. -/
  verbose : Bool
  /-- A carriage return can end a line. -/
  returns : Bool

/-- The flags at the beginning of a pattern. -/
def Flags.initial : Flags := ⟨false, false, false, true, false, false⟩

namespace Flags

/-- The text after characters that pass a test, and after white space and comments if those do not
count. A comment ends with its line. -/
def skipWhile (f : Flags) (passes : Char → Bool) (inComment : Bool) : List Char → List Char
  | [] => []
  | c :: rest =>
    if inComment then f.skipWhile passes (c != '\n') rest
    else if passes c || (f.verbose && isWhite c) then f.skipWhile passes false rest
    else if f.verbose && c == '#' then f.skipWhile passes true rest
    else c :: rest

/-- The text after white space and comments, if those do not count. -/
def skip (f : Flags) (s : List Char) : List Char := f.skipWhile (fun _ => false) false s

/-- So many characters, without those between them that do not count, and what follows. -/
def take? (f : Flags) : Nat → List Char → Option (List Char × List Char)
  | 0, s => some ([], s)
  | n + 1, s =>
    match f.skip s with
    | [] => none
    | c :: rest => (f.take? n rest).map fun (taken, rest) => (c :: taken, rest)

/-- The characters up to a closing brace, without those that do not count, and what follows the
brace. -/
def braced? (f : Flags) (inComment : Bool) : List Char → Option (List Char × List Char)
  | [] => none
  | c :: rest =>
    if inComment then f.braced? (c != '\n') rest
    else if c = '\x7d' then some ([], rest)
    else if f.verbose && isWhite c then f.braced? false rest
    else if f.verbose && c == '#' then f.braced? true rest
    else (f.braced? false rest).map fun (taken, rest) => (c :: taken, rest)

/-- The set closed under case, if case does not count. -/
def closed (f : Flags) (s : CharSet) : CharSet :=
  if f.ignoreCase then (if f.unicode then s.foldCase else s.foldAsciiCase) else s

/-- The complement of a set where characters beyond ASCII can be named. -/
def negated? (f : Flags) (negate : Bool) (s : CharSet) : Option CharSet :=
  if negate then (if f.unicode then some s.complement else none) else some s

/-- The characters that can be part of a word. -/
def wordSet (f : Flags) : CharSet := if f.unicode then isWordChar else CharSet.isAsciiWord

end Flags

/-! ## Escapes -/

/-- What an escape stands for. -/
inductive Escape where
  | char (c : Char)
  | set (s : CharSet)
  | edge (holds : Option Char → Option Char → Bool)

/-- The value of hexadecimal digits. -/
def hexNumber? (digits : List Char) : Option Nat :=
  if digits.isEmpty then none
  else digits.foldlM (fun n c => (Quoted.hexValue? c).map (n * 16 + ·)) 0

/-- The character of a number. -/
def charOfNat? (n : Nat) : Option Char := if n.isValidChar then some (Char.ofNat n) else none

/-- A character given by so many hexadecimal digits, or by any number of them between braces. Two
digits name a byte, which is no character of its own from `0x80` on unless the pattern is about
Unicode. -/
def hexEscape? (f : Flags) (digits : Nat) (s : List Char) : Option (Char × List Char) := do
  match f.skip s with
  | '\x7b' :: rest =>
    let (number, rest) ← f.braced? false rest
    return (← charOfNat? (← hexNumber? number), rest)
  | s =>
    let (number, rest) ← f.take? digits s
    let c ← charOfNat? (← hexNumber? number)
    guard (f.unicode || digits ≠ 2 || c.toNat < 0x80)
    return (c, rest)

/-- Splits a name at the first place where a sign stands in it. -/
def splitAt? (sign : List Char) : List Char → Option (List Char × List Char)
  | [] => none
  | c :: rest =>
    if sign.isPrefixOf (c :: rest) then some ([], (c :: rest).drop sign.length)
    else (splitAt? sign rest).map fun (before, after) => (c :: before, after)

/-- The set of a property by what stands between the braces, and whether it is written as an
inequality. -/
def property? (name : List Char) : Option (CharSet × Bool) :=
  match splitAt? ['!', '='] name with
  | some (property, value) => (CharSet.ofPropertyValue? property value).map (·, true)
  | none =>
    match (splitAt? [':'] name).or (splitAt? ['='] name) with
    | some (property, value) => (CharSet.ofPropertyValue? property value).map (·, false)
    | none => (CharSet.ofPropertyName? name).map (·, false)

/-- The set of the characters with a property. -/
def propertyEscape? (f : Flags) (negate : Bool) (s : List Char) : Option (CharSet × List Char) := do
  guard f.unicode
  let (name, rest) ← match f.skip s with
    | '\x7b' :: rest => f.braced? false rest
    | '\\' :: _ => none
    | c :: rest => some ([c], rest)
    | [] => none
  let (set, unequal) ← property? name
  return (← f.negated? (negate != unequal) (f.closed set), rest)

/-- Signs that have a meaning of their own unless a backslash stands before them. -/
def isMeta (c : Char) : Bool :=
  ['\\', '.', '+', '*', '?', '(', ')', '|', '[', ']', '\x7b', '\x7d', '^', '$', '#', '&', '-',
    '~'].contains c

/-- Whether a backslash before a character gives the character itself. -/
def isEscapable (c : Char) : Bool :=
  isMeta c || (c.toNat < 0x80 && !c.isAlphanum && c != '<' && c != '>')

/-- The edges of words that are named between braces. -/
def namedEdges (isWord : CharSet) : List (String × (Option Char → Option Char → Bool)) :=
  [("start", Edge.wordStart isWord), ("end", Edge.wordEnd isWord),
   ("start-half", Edge.wordStartHalf isWord), ("end-half", Edge.wordEndHalf isWord)]

/-- An edge of a word. Braces after it hold the name of a kind of edge if they begin with a letter or
a dash, and a number of repetitions otherwise. -/
def edgeEscape? (f : Flags) (s : List Char) : Option (Escape × List Char) :=
  match s with
  | '\x7b' :: rest =>
    match f.skip rest with
    | [] => none
    | c :: _ =>
      if c.isAlpha || c == '-' then do
        let (name, rest) ← f.braced? false rest
        let holds ← (namedEdges f.wordSet).lookup (String.ofList name)
        return (.edge holds, rest)
      else some (.edge (Edge.word f.wordSet), s)
  | _ => some (.edge (Edge.word f.wordSet), s)

/-- What stands after a backslash. -/
def escape? (f : Flags) (s : List Char) : Option (Escape × List Char) :=
  let set (negate : Bool) (s : CharSet) (rest : List Char) : Option (Escape × List Char) :=
    (f.negated? negate s).map fun s => (.set s, rest)
  let digit : CharSet := if f.unicode then isDecimalDigit else Char.isDigit
  let space : CharSet := if f.unicode then isWhite else CharSet.isAsciiSpace
  match s with
  | [] => none
  | 'x' :: rest => (hexEscape? f 2 rest).map fun (c, rest) => (.char c, rest)
  | 'u' :: rest => (hexEscape? f 4 rest).map fun (c, rest) => (.char c, rest)
  | 'U' :: rest => (hexEscape? f 8 rest).map fun (c, rest) => (.char c, rest)
  | 'p' :: rest => (propertyEscape? f false rest).map fun (s, rest) => (.set s, rest)
  | 'P' :: rest => (propertyEscape? f true rest).map fun (s, rest) => (.set s, rest)
  | 'd' :: rest => set false digit rest
  | 'D' :: rest => set true digit rest
  | 's' :: rest => set false space rest
  | 'S' :: rest => set true space rest
  | 'w' :: rest => set false f.wordSet rest
  | 'W' :: rest => set true f.wordSet rest
  | 'a' :: rest => some (.char '\x07', rest)
  | 'f' :: rest => some (.char '\x0c', rest)
  | 't' :: rest => some (.char '\t', rest)
  | 'n' :: rest => some (.char '\n', rest)
  | 'r' :: rest => some (.char '\r', rest)
  | 'v' :: rest => some (.char '\x0b', rest)
  | 'A' :: rest => some (.edge Edge.textStart, rest)
  | 'z' :: rest => some (.edge Edge.textEnd, rest)
  | 'b' :: rest => edgeEscape? f rest
  | 'B' :: rest => some (.edge (Edge.noWord f.wordSet), rest)
  | '<' :: rest => some (.edge (Edge.wordStart f.wordSet), rest)
  | '>' :: rest => some (.edge (Edge.wordEnd f.wordSet), rest)
  | c :: rest => if isEscapable c then some (.char c, rest) else none

/-! ## Bracketed sets -/

/-- An operation between two sets. -/
abbrev SetOp := CharSet → CharSet → CharSet

/-- The union of two sets. -/
def unite : SetOp := fun a b c => a c || b c

/-- The operations by the sign that is written twice between the sets. -/
def setOps : List (Char × SetOp) :=
  [('&', fun a b c => a c && b c), ('-', fun a b c => a c && !b c), ('~', fun a b c => a c != b c)]

/-- The set of a single character, if characters of this kind can be named. -/
def single? (f : Flags) (c : Char) : Option CharSet :=
  if f.unicode || c.toNat < 0x80 then some (· == c) else none

/-- A member of a bracketed set. -/
def member? (f : Flags) : List Char → Option (Escape × List Char)
  | '\\' :: rest => escape? f rest
  | c :: rest => some (.char c, rest)
  | [] => none

/-- A member of a bracketed set, or the range between two characters. A dash before the closing
bracket or before another dash makes no range. -/
def rangeOrMember? (f : Flags) (s : List Char) : Option (CharSet × List Char) := do
  let (first, rest) ← member? f s
  let alone : Option (CharSet × List Char) :=
    match first with
    | .char c => (single? f c).map (·, f.skip rest)
    | .set s => some (s, f.skip rest)
    | .edge _ => none
  match f.skip rest with
  | [] => none
  | '-' :: rest =>
    match f.skip rest with
    | [] => alone
    | ']' :: _ | '-' :: _ => alone
    | s => do
      let (last, rest) ← member? f s
      match first, last with
      | .char low, .char high =>
        guard (low ≤ high ∧ (f.unicode || high.toNat < 0x80))
        return (CharSet.range low high, rest)
      | _, _ => none
  | _ => alone

/-- A class of ASCII by its name between colons, such as `[:alpha:]`. -/
def asciiClass? (s : List Char) : Option ((CharSet × Bool) × List Char) := do
  let ':' :: rest := s | none
  let (negate, rest) := match rest with
    | '^' :: rest => (true, rest)
    | rest => (false, rest)
  let name := rest.takeWhile (· != ':')
  let ':' :: ']' :: rest := rest.drop name.length | none
  let set ← CharSet.asciiClasses.lookup (String.ofList name)
  return ((set, negate), rest)

/-- The dashes that a bracketed set may begin with, and what follows them. -/
def leadingDashes (f : Flags) (s : List Char) : Bool × List Char :=
  match s with
  | '-' :: rest => (true, f.skipWhile (· == '-') false rest)
  | s => (false, s)

/-- What stands between an opening bracket and the members of a set: whether the set is negated, and
the members that can stand only here, dashes or a closing bracket. -/
def bracketHead (f : Flags) (s : List Char) : Bool × CharSet × List Char :=
  let (negate, s) := match f.skip s with
    | '^' :: rest => (true, f.skip rest)
    | s => (false, s)
  match leadingDashes f s with
  | (true, rest) => (negate, (· == '-'), rest)
  | (false, ']' :: rest) => (negate, (· == ']'), rest)
  | (false, s) => (negate, fun _ => false, s)

/-- The members of a bracketed set up to its end. `left?` is the operation that the set so far is the
right side of, with its left side. -/
def bracketRest? (f : Flags) (left? : Option (SetOp × CharSet)) (members : CharSet) (s : List Char) :
    Option (CharSet × Rest s) := do
  let combined : CharSet := match left? with
    | some (op, left) => op (f.closed left) (f.closed members)
    | none => members
  match f.skip s with
  | [] => none
  | ']' :: rest => taken? s (some (f.closed combined, rest))
  | '[' :: rest =>
    match asciiClass? rest with
    | some ((set, negate), rest) =>
      let set ← f.negated? negate (f.closed set)
      let ((), ⟨rest, _⟩) ← taken? s (some ((), rest))
      let (result, ⟨rest, _⟩) ← bracketRest? f left? (unite members set) rest
      return (result, ⟨rest, by omega⟩)
    | none =>
      let (negate, first, rest) := bracketHead f rest
      let ((), ⟨rest, _⟩) ← taken? s (some ((), rest))
      let (inner, ⟨rest, _⟩) ← bracketRest? f none first rest
      let inner ← f.negated? negate inner
      let (result, ⟨rest, _⟩) ← bracketRest? f left? (unite members inner) rest
      return (result, ⟨rest, by omega⟩)
  | c :: rest =>
    match (if rest.head? = some c then setOps.lookup c else none) with
    | some op =>
      let ((), ⟨rest, _⟩) ← taken? s (some ((), rest.drop 1))
      let (result, ⟨rest, _⟩) ← bracketRest? f (some (op, combined)) (fun _ => false) rest
      return (result, ⟨rest, by omega⟩)
    | none =>
      let (set, ⟨rest, _⟩) ← taken? s (rangeOrMember? f (c :: rest))
      let (result, ⟨rest, _⟩) ← bracketRest? f left? (unite members set) rest
      return (result, ⟨rest, by omega⟩)
termination_by s.length

/-- A bracketed set after its opening bracket. -/
def bracket? (f : Flags) (s : List Char) : Option (CharSet × List Char) := do
  let (negate, first, rest) := bracketHead f s
  let (set, ⟨rest, _⟩) ← bracketRest? f none first rest
  return (← f.negated? negate set, rest)

/-! ## Single pieces -/

/-- The pattern of a single character. -/
def literal (f : Flags) (c : Char) : Pattern := one (f.closed (· == c))

/-- A piece of a pattern that is no group. -/
def piece? (f : Flags) : List Char → Option (Pattern × List Char)
  | [] => none
  | '.' :: rest => do
    guard f.unicode
    let excluded : CharSet := fun c => !f.dotAll && (c == '\n' || (f.returns && c == '\r'))
    return (one excluded.complement, rest)
  | '^' :: rest =>
    let edge :=
      if f.multiLine then (if f.returns then Edge.returnLineStart else Edge.lineStart)
      else Edge.textStart
    some (look edge, rest)
  | '$' :: rest =>
    let edge :=
      if f.multiLine then (if f.returns then Edge.returnLineEnd else Edge.lineEnd)
      else Edge.textEnd
    some (look edge, rest)
  | '[' :: rest => (bracket? f rest).map fun (set, rest) => (one set, rest)
  | '\\' :: rest => do
    let (e, rest) ← escape? f rest
    match e with
    | .char c => return (literal f c, rest)
    | .set s => return (one s, rest)
    | .edge holds => return (look holds, rest)
  | c :: rest => some (literal f c, rest)

/-! ## Repetitions -/

/-- Decimal digits, between which blanks may stand if those do not count. -/
def countDigits (f : Flags) (s : List Char) : List Char × List Char :=
  let digits := s.takeWhile fun c => c.isDigit || (f.verbose && isWhite c)
  (digits.filter Char.isDigit, s.drop digits.length)

/-- A number of repetitions with white space around it. It has to fit into 32 bits. -/
def count? (f : Flags) (s : List Char) : Option (Nat × List Char) := do
  let (digits, rest) := countDigits f (s.dropWhile isWhite)
  let n ← (String.ofList digits).toNat?
  guard (n < UInt32.size)
  return (n, f.skip (rest.dropWhile isWhite))

/-- The bounds of a repetition after its opening brace. -/
def bounds? (f : Flags) (s : List Char) : Option ((Nat × Option Nat) × List Char) := do
  let (least, rest) ← count? f (f.skip s)
  match rest with
  | '\x7d' :: rest => return ((least, some least), rest)
  | ',' :: rest =>
    match f.skip rest with
    | '\x7d' :: rest => return ((least, none), rest)
    | s =>
      let (most, rest) ← count? f s
      let '\x7d' :: rest := rest | none
      guard (least ≤ most)
      return ((least, some most), rest)
  | _ => none

/-- The text after a question mark, which makes a repetition prefer few rounds. -/
def skipLazy : List Char → List Char
  | '?' :: rest => rest
  | s => s

/-- A repetition of the piece before it. -/
def repetition? (f : Flags) : List Char → Option ((Nat × Option Nat) × List Char)
  | '?' :: rest => some ((0, some 1), skipLazy rest)
  | '*' :: rest => some ((0, none), skipLazy rest)
  | '+' :: rest => some ((1, none), skipLazy rest)
  | '\x7b' :: rest => (bounds? f rest).map fun (bounds, rest) => (bounds, skipLazy (f.skip rest))
  | _ => none

/-! ## Groups -/

/-- The letters of flags and how they set one. -/
def flagSetters : List (Char × (Bool → Flags → Flags)) :=
  [('i', fun b f => { f with ignoreCase := b }), ('m', fun b f => { f with multiLine := b }),
   ('s', fun b f => { f with dotAll := b }), ('u', fun b f => { f with unicode := b }),
   ('x', fun b f => { f with verbose := b }), ('R', fun b f => { f with returns := b }),
   ('U', fun _ f => f)]

/-- Flags up to the sign after them. A letter stands at most once, and letters after a dash, which may
not be the last sign, are switched off. -/
def flags? (f : Flags) (negate : Bool) (seen : List Char) : List Char → Option (Flags × List Char)
  | [] => none
  | c :: rest =>
    if c = ':' ∨ c = ')' then
      if seen.head? = some '-' then none else some (f, c :: rest)
    else if seen.contains c then none
    else if c = '-' then flags? f true (c :: seen) rest
    else do
      let setter ← flagSetters.lookup c
      flags? (setter (!negate) f) negate (c :: seen) rest

/-- Whether a character can be part of a group's name. -/
def isNamePart (first : Bool) (c : Char) : Bool :=
  c == '_' || isAlphabetic c ||
    (!first && (isNumber c || c == '.' || c == '[' || c == ']'))

/-- The name of a group and what follows it. -/
def groupName? (s : List Char) : Option (List Char × List Char) := do
  let name := s.takeWhile (· != '>')
  guard (name.length < s.length)
  guard (name.head?.any (isNamePart true) && name.all (isNamePart false))
  return (name, s.drop (name.length + 1))

/-- What the beginning of a group means for what follows. -/
inductive GroupHead where
  /-- A group with flags of its own, and its name if it has one. -/
  | group (flags : Flags) (name? : Option (List Char))
  /-- No group, but flags for the rest of the group around it. -/
  | switch (flags : Flags)

/-- The beginning of a group after its parenthesis. -/
def groupHead? (f : Flags) (s : List Char) : Option (GroupHead × List Char) :=
  match f.skip s with
  | '?' :: 'P' :: '<' :: rest => (groupName? rest).map fun (name, rest) => (.group f (some name), rest)
  | '?' :: '<' :: '=' :: _ | '?' :: '<' :: '!' :: _ => none
  | '?' :: '<' :: rest => (groupName? rest).map fun (name, rest) => (.group f (some name), rest)
  | '?' :: rest => do
    let (flags, after) ← flags? f false [] rest
    match after with
    | ':' :: after => return (.group flags none, after)
    | _ :: after => if rest.head? = some ')' then none else return (.switch flags, after)
    | [] => none
  | s => some (.group f none, s)

/-! ## Patterns -/

/-- What a group has been read to: its finished alternatives, and the pieces of the last one, the
latest first. Flags stand among the pieces as nothing, because they cannot be repeated. -/
structure Draft where
  finished : List Pattern
  pieces : List (Option Pattern)

namespace Draft

/-- Nothing read yet. -/
def initial : Draft := ⟨[], []⟩

/-- The last alternative. -/
def alternative (g : Draft) : Pattern :=
  g.pieces.foldl (fun after piece? => piece?.elim after fun piece => seq piece after) Pattern.empty

/-- Begins another alternative. -/
def next (g : Draft) : Draft := ⟨g.alternative :: g.finished, []⟩

/-- Adds a piece. -/
def add (g : Draft) (piece? : Option Pattern) : Draft := { g with pieces := piece? :: g.pieces }

/-- Repeats the last piece. -/
def repeatLast? (g : Draft) (bounds : Nat × Option Nat) : Option Draft :=
  match g.pieces with
  | some piece :: before => some { g with pieces := some (repeated piece bounds.1 bounds.2) :: before }
  | _ => none

/-- The whole group. -/
def whole (g : Draft) : Pattern := g.finished.foldl (fun others p => alt p others) g.alternative

end Draft

/-- Reads a group up to its closing parenthesis or the end of the text, given the names of the groups
before. -/
def group? (f : Flags) (names : List (List Char)) (g : Draft) (s : List Char) :
    Option (Pattern × List (List Char) × { r : List Char // r.length ≤ s.length }) := do
  match f.skip s with
  | [] => some (g.whole, names, ⟨[], Nat.zero_le _⟩)
  | ')' :: rest =>
    let ((), ⟨rest, _⟩) ← taken? s (some ((), rest))
    some (g.whole, names, ⟨')' :: rest, by simp only [List.length_cons]; omega⟩)
  | '|' :: rest =>
    let ((), ⟨rest, _⟩) ← taken? s (some ((), rest))
    let (p, names, ⟨rest, _⟩) ← group? f names g.next rest
    some (p, names, ⟨rest, by omega⟩)
  | '(' :: rest =>
    let (head, ⟨rest, _⟩) ← taken? s (groupHead? f rest)
    match head with
    | .switch flags =>
      let (p, names, ⟨rest, _⟩) ← group? flags names (g.add none) rest
      some (p, names, ⟨rest, by omega⟩)
    | .group flags name? =>
      if name?.any names.contains then none
      let (inner, names, ⟨rest, _⟩) ← group? flags (name?.toList ++ names) Draft.initial rest
      match rest with
      | ')' :: rest =>
        let ((), ⟨rest, _⟩) ← taken? s (some ((), rest))
        let (p, names, ⟨rest, _⟩) ← group? f names (g.add (some inner)) rest
        some (p, names, ⟨rest, by omega⟩)
      | _ => none
  | c :: rest =>
    if ['?', '*', '+', '\x7b'].contains c then
      let (bounds, ⟨rest, _⟩) ← taken? s (repetition? f (c :: rest))
      let g ← g.repeatLast? bounds
      let (p, names, ⟨rest, _⟩) ← group? f names g rest
      some (p, names, ⟨rest, by omega⟩)
    else
      let (piece, ⟨rest, _⟩) ← taken? s (piece? f (c :: rest))
      let (p, names, ⟨rest, _⟩) ← group? f names (g.add (some piece)) rest
      some (p, names, ⟨rest, by omega⟩)
termination_by s.length

/-- Reads a pattern, unless it is too large. Nothing is read from a pattern that is no regular
expression, or that names a property of characters which is not known here. -/
def parse? (text : String) : Option Pattern := do
  let (p, _, rest) ← group? Flags.initial [] Draft.initial text.toList
  if rest.1.isEmpty && p.size ≤ maxSize then some p else none

end GoSchema.Pattern
