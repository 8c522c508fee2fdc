import GoSchema.Text.Trim

/-!
# Command-line arguments

The inputs and options of a run. An option with a value takes it from the same argument or from the
next one, which then must not look like an option. Options that do not add up are given at most once.
-/

namespace GoSchema.Cli

/-- What a command line asks for. -/
structure Arguments where
  inputs : List String
  filter? : Option String
  output? : Option String
  stdout : Bool
  json : Bool
  package? : Option String
  perFile : Bool
  overrides? : Option String
  /-- The file options in the order in which they are given. -/
  options : List (String × String)
  /-- How often more details are asked for. -/
  verbose : Nat
deriving Repr, DecidableEq

namespace Arguments

/-- The command line without arguments. -/
def initial : Arguments :=
  ⟨[], none, none, false, false, none, false, none, [], 0⟩

/-! ## Options -/

/-- The options that take a value. -/
inductive Setting where
  | filter | output | package | overrides | option
deriving Repr, DecidableEq

/-- The options that stand alone. -/
inductive Switch where
  | stdout | json | perFile | verbose
deriving Repr, DecidableEq

/-- An option of either kind. -/
inductive Flag where
  | setting (s : Setting)
  | switch (s : Switch)
deriving Repr, DecidableEq

/-- The long names of options. -/
def longNames : List (String × Flag) :=
  [("filter", .setting .filter), ("output", .setting .output), ("package", .setting .package),
   ("overrides", .setting .overrides), ("option", .setting .option), ("stdout", .switch .stdout),
   ("json", .switch .json), ("per-file", .switch .perFile), ("verbose", .switch .verbose)]

/-- The short names of options. -/
def shortNames : List (Char × Flag) :=
  [('f', .setting .filter), ('o', .setting .output), ('v', .switch .verbose)]

/-- A key and a value with an equals sign between them. White space around them does not count; the
key must not be blank. -/
def keyValue? (text : String) : Option (String × String) :=
  let cs := text.toList
  let key := cs.takeWhile (· != '=')
  match cs.drop key.length with
  | '=' :: value =>
    if (Text.trim key).isEmpty then none
    else some (String.ofList (Text.trim key), String.ofList (Text.trim value))
  | _ => none

/-- A path, which must not be empty. -/
def path? (text : String) : Option String := if text.isEmpty then none else some text

/-- Gives a setting its value, unless it has one. -/
def set? (a : Arguments) (s : Setting) (value : String) : Option Arguments :=
  match s with
  | .filter => if a.filter?.isSome then none else some { a with filter? := some value }
  | .output =>
    if a.output?.isSome then none
    else (path? value).map fun value => { a with output? := some value }
  | .package => if a.package?.isSome then none else some { a with package? := some value }
  | .overrides =>
    if a.overrides?.isSome then none
    else (path? value).map fun value => { a with overrides? := some value }
  | .option => (keyValue? value).map fun entry => { a with options := a.options ++ [entry] }

/-- Turns a switch on. Only details can be asked for more than once. -/
def turnOn? (a : Arguments) (s : Switch) : Option Arguments :=
  match s with
  | .stdout => if a.stdout then none else some { a with stdout := true }
  | .json => if a.json then none else some { a with json := true }
  | .perFile => if a.perFile then none else some { a with perFile := true }
  | .verbose => some { a with verbose := a.verbose + 1 }

/-- Adds an input, which must not be empty. -/
def addInput? (a : Arguments) (input : String) : Option Arguments :=
  (path? input).map fun input => { a with inputs := a.inputs ++ [input] }

/-! ## Reading a command line -/

/-- Whether an argument looks like an option. A lone dash does not. -/
def looksLikeOption (argument : String) : Bool :=
  match argument.toList with
  | '-' :: _ :: _ => true
  | _ => false

/-- What an argument made of options leaves to be done: nothing, or a setting whose value is the next
argument. -/
abbrev Step := Arguments × Option Setting

/-- Reads an argument that begins with two dashes, given what follows them. -/
def long? (a : Arguments) (text : List Char) : Option Step := do
  let name := text.takeWhile (· != '=')
  match ← longNames.lookup (String.ofList name), text.drop name.length with
  | .switch s, [] => return (← a.turnOn? s, none)
  | .switch _, _ => none
  | .setting s, [] => return (a, some s)
  | .setting s, _ :: value => return (← a.set? s (String.ofList value), none)

/-- Reads short options that share one dash. The first one with a value takes the rest of the argument
as its value. -/
def short? (a : Arguments) : List Char → Option Step
  | [] => some (a, none)
  | c :: rest => do
    match ← shortNames.lookup c with
    | .switch s => short? (← a.turnOn? s) rest
    | .setting s =>
      match rest with
      | [] => return (a, some s)
      | '=' :: value => return (← a.set? s (String.ofList value), none)
      | value => return (← a.set? s (String.ofList value), none)

/-- Reads arguments that are inputs whatever they look like. -/
def inputs? (a : Arguments) (arguments : List String) : Option Arguments :=
  arguments.foldlM addInput? a

/-- Reads arguments one after the other. -/
def read? (a : Arguments) : List String → Option Arguments
  | [] => some a
  | argument :: rest =>
    let step? : Option Step :=
      match argument.toList with
      | '-' :: '-' :: text => a.long? text
      | '-' :: c :: text => a.short? (c :: text)
      | _ => (a.addInput? argument).map (·, none)
    if argument = "--" then a.inputs? rest
    else
      match step?, rest with
      | none, _ => none
      | some (a, none), rest => read? a rest
      | some (_, some _), [] => none
      | some (a, some s), value :: rest =>
        if looksLikeOption value then none
        else
          match a.set? s value with
          | some a => read? a rest
          | none => none

/-- Reads a command line. There has to be an input, and text and JSON cannot both be printed. -/
def parse? (arguments : List String) : Option Arguments := do
  let a ← Arguments.initial.read? arguments
  if a.inputs.isEmpty || (a.stdout && a.json) then none else some a

end Arguments

end GoSchema.Cli
