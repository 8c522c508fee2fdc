/-!
# Runs of code points

A property of characters is given by the code points that have it. The tables of this library write
such a set as a list of runs in increasing order, so that looking up a small code point stops early.
-/

namespace GoSchema.Text

/-- The code points `first`, `first + step`, `first + 2 * step`, … up to `last`. -/
structure Run where
  first : Nat
  last : Nat
  step : Nat
deriving Repr, DecidableEq

/-- Whether a code point lies in the run. -/
def Run.covers (r : Run) (n : Nat) : Bool :=
  r.first ≤ n && n ≤ r.last && (n - r.first) % r.step == 0

/-- Whether a code point lies in one of the runs. The search stops at the first run that begins
after it, which is right because the runs stand in increasing order. -/
def covered : List Run → Nat → Bool
  | [], _ => false
  | r :: rest, n => r.first ≤ n && (r.covers n || covered rest n)

/-- The code points `first`, `first + step`, … up to `last`, each sent the same distance away:
`first` goes to `target`. -/
structure Shift where
  first : Nat
  last : Nat
  step : Nat
  target : Nat
deriving Repr, DecidableEq

/-- The code points that the shift moves. -/
def Shift.source (s : Shift) : Run := ⟨s.first, s.last, s.step⟩

/-- The image of a code point under the first shift that moves it. The shifts stand in increasing
order of the code points that they move. -/
def shifted? : List Shift → Nat → Option Nat
  | [], _ => none
  | s :: rest, n =>
    if n < s.first then none
    else if s.source.covers n then some (s.target + (n - s.first))
    else shifted? rest n

/-- The code points that the shifts send to a given one. -/
def shiftSources (shifts : List Shift) (image : Nat) : List Nat :=
  shifts.filterMap fun s =>
    let n := image + s.first - s.target
    if s.target ≤ image + s.first ∧ s.source.covers n then some n else none

end GoSchema.Text
