import SqlAnywhere.Text.Basic

/-!
# Ranges of code points

A property of characters outside ASCII is given by the ranges of the code
points that have it, in ascending order.
-/

namespace SqlAnywhere

/-- A range of code points, from its first to its last. -/
abbrev CodeRange := Nat × Nat

/-- Whether a character lies in a range. -/
def CodeRange.holds (range : CodeRange) (character : Char) : Bool :=
  range.1 ≤ character.toNat && character.toNat ≤ range.2

/-- Whether a character lies in one of the ranges. -/
def inRanges (ranges : List CodeRange) (character : Char) : Bool :=
  ranges.any (·.holds character)

end SqlAnywhere
