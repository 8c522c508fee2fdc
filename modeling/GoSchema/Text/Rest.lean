/-!
# What is left of a text

A reader takes something from the beginning of a text and leaves the rest. That the rest is shorter
is what makes reading end, so it is carried along.
-/

namespace GoSchema.Text

/-- A text shorter than a given one. -/
abbrev Rest (s : List Char) := { r : List Char // r.length < s.length }

/-- What was read from a text, refused unless something was taken. -/
def taken? {α : Type} (s : List Char) : Option (α × List Char) → Option (α × Rest s)
  | some (a, r) => if h : r.length < s.length then some (a, ⟨r, h⟩) else none
  | none => none

end GoSchema.Text
