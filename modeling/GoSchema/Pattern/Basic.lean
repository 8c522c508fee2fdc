/-!
# Patterns

A regular expression matches a text when some part of the text belongs to its language. Only that is
asked here, never which part, so a match is found by carrying along the set of all places that can be
reached: from a set of places, each pattern leads to the set of places after a piece of text that it
describes.
-/

namespace GoSchema

/-- A regular expression. -/
inductive Pattern where
  | empty
  /-- One character of a set. -/
  | one (includes : Char → Bool)
  /-- A condition on the characters before and after a place; at an end of the text there is none. -/
  | look (holds : Option Char → Option Char → Bool)
  | seq (first second : Pattern)
  | alt (first second : Pattern)
  /-- At least and, if there is a bound, at most so many times. -/
  | repeated (p : Pattern) (least : Nat) (most? : Option Nat)

namespace Pattern

/-- A set of places of a text: for each place from the beginning of the text to its end, whether it
belongs to the set. -/
abbrev Places := List Bool

/-- The places that belong to one of two sets. -/
def union (a b : Places) : Places := List.zipWith (· || ·) a b

/-- For each place the character before it and the character after it. -/
def contexts (text : List Char) : List (Option Char × Option Char) :=
  List.zip (none :: text.map some) (text.map some ++ [none])

/-- The places that are reached from a set in at most so many rounds of a step. A round that adds
nothing is the last one. -/
def grow (step : Places → Places) : Nat → Places → Places
  | 0, places => places
  | rounds + 1, places =>
    let more := union places (step places)
    if more = places then places else grow step rounds more

/-- The places that a pattern leads to. Going round more often than the text has places leads nowhere
new, so that a repetition comes to rest. -/
def reach (text : List Char) : Pattern → Places → Places
  | empty, places => places
  | one includes, places => false :: List.zipWith (fun here c => here && includes c) places text
  | look holds, places =>
    List.zipWith (fun here context => here && holds context.1 context.2) places (contexts text)
  | seq first second, places => reach text second (reach text first places)
  | alt first second, places => union (reach text first places) (reach text second places)
  | repeated p least most?, places =>
    let rounds := text.length + 1
    let further := most?.elim rounds fun most => min (most - least) rounds
    grow (fun places => reach text p places) further
      (Nat.repeat (fun places => reach text p places) (min least rounds) places)

/-- Whether some part of a text belongs to the pattern's language. -/
def occursIn (p : Pattern) (text : String) : Bool :=
  let cs := text.toList
  (reach cs p (List.replicate (cs.length + 1) true)).any id

/-- The pattern that occurs in every text. -/
def always : Pattern := empty

/-- How many characters a pattern asks for when its repetitions are written out. -/
def size : Pattern → Nat
  | empty | look _ => 0
  | one _ => 1
  | seq first second | alt first second => first.size + second.size
  | repeated p least most? => p.size * max least (most?.getD 1)

/-- The size of the largest pattern that is accepted. It is an estimate of the room that a pattern
may take up when it is prepared for searching. -/
def maxSize : Nat := 327680

end Pattern

end GoSchema
