/-!
# Spans of code points

Properties of characters come as tables of spans: a first and a last code point, and the step
from one member to the next. A step of two is common, because capital and small letters of many
scripts alternate.
-/

set_option autoImplicit false

namespace Stencil.Text

/-- The code points `first`, `first + step`, ... up to `last`. -/
structure Span where
  first : Nat
  last : Nat
  step : Nat

/-- Membership of a code point in a span. -/
def Span.holds (s : Span) (n : Nat) : Bool :=
  s.first ≤ n && n ≤ s.last && (n - s.first) % s.step == 0

/-- Membership of a code point in one of a list of ranges, both ends included. -/
def inRanges (ranges : List (Nat × Nat)) (n : Nat) : Bool :=
  ranges.any fun r => r.1 ≤ n && n ≤ r.2

/-- Membership of a code point in one of a list of spans. -/
def inSpans (spans : List Span) (n : Nat) : Bool :=
  spans.any (·.holds n)

end Stencil.Text
