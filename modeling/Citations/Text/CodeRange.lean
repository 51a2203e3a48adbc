/-!
# Ranges of code points

Character properties that go beyond ASCII are tables of ranges. A range may skip every second
code point, because in many scripts capital and small letters alternate.
-/
namespace Citations.Text

/-- Every `step`-th code point from `first` to `last`. -/
structure CodeRange where
  /-- The least code point. -/
  first : Nat
  /-- The greatest code point. -/
  last : Nat
  /-- The distance between neighbours. -/
  step : Nat

/-- Whether a code point lies in the range. -/
def CodeRange.holds (range : CodeRange) (code : Nat) : Bool :=
  range.first ≤ code && code ≤ range.last && (code - range.first) % range.step == 0

/-- Whether a character lies in one of the ranges. -/
def inRanges (ranges : List CodeRange) (c : Char) : Bool :=
  ranges.any (·.holds c.toNat)

/-- A range of code points and the image of its first one; the others keep their distance. -/
structure CaseRange where
  /-- The code points that are mapped. -/
  source : CodeRange
  /-- The image of the first of them. -/
  target : Nat

/-- The image of a character under the first range that holds it. -/
def image? (ranges : List CaseRange) (c : Char) : Option Char :=
  (ranges.find? (·.source.holds c.toNat)).map fun range =>
    Char.ofNat (range.target + (c.toNat - range.source.first))

end Citations.Text
