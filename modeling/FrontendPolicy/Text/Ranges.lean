/-!
# Sets of code points

A character property is given as its ranges of code points in ascending order, and `covers` tells
whether a code point lies in one of them.
-/

namespace FrontendPolicy.Text

/-- Closed ranges of code points, ascending and without overlap. -/
abbrev Ranges := List (Nat × Nat)

/-- Whether a code point lies in one of the ranges. The search stops at the first range that
starts past it. -/
def Ranges.covers : Ranges → Nat → Bool
  | [], _ => false
  | (first, last) :: rest, n =>
    if n < first then false else if n ≤ last then true else covers rest n

end FrontendPolicy.Text
