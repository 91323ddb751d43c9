/-!
# Sets of code points

A property of characters is given by the ranges of code points that have it, both ends
included, in increasing order.
-/

namespace GroupInterfaces.Text

/-- A set of code points as ranges in increasing order, both ends of a range included. -/
abbrev Ranges : Type := List (Nat × Nat)

/-- Membership of a code point, looked for no further than the first range above it. -/
def Ranges.hold : Ranges → Nat → Bool
  | [], _ => false
  | (first, last) :: rest, n =>
    if n < first then false else if n ≤ last then true else Ranges.hold rest n

end GroupInterfaces.Text
