/-!
# Sets of code points

A set of code points is kept as the increasing list of the places where membership
changes: the set starts outside, and every listed code point switches it.  So `[a, b]`
is the range from `a` up to, but not including, `b`.
-/

set_option autoImplicit false

namespace Turnstile.Text

/-- A set of code points, as the places where membership changes. -/
structure CodeSet where
  changes : List Nat

namespace CodeSet

/-- Membership of `c` for an increasing list of changes. -/
def inside : List Nat → Nat → Bool
  | [], _ => false
  | place :: rest, c => if c < place then false else !inside rest c

/-- Whether the set has a code point. -/
def contains (s : CodeSet) (c : Nat) : Bool := inside s.changes c

end CodeSet

end Turnstile.Text
