import Turnstile.Value.Basic

/-!
# Equality and order of documents

Two documents are equal when they have the same shape and equal leaves.  What counts as
equal numbers is a parameter: conditions compare by value (`1 = 1.0`), programs compare
by kind as well.  Numbers and strings are ordered; other pairs are not comparable.
-/

set_option autoImplicit false

namespace Turnstile.Value

mutual

/-- Structural equality over a given equality of numbers. -/
def sameBy (numbers : Number → Number → Bool) : Value → Value → Bool
  | .null, .null => true
  | .bool a, .bool b => a == b
  | .num a, .num b => numbers a b
  | .str a, .str b => a == b
  | .arr a, .arr b => sameItems numbers a b
  | .obj a, .obj b => a.length == b.length && sameFields numbers a b
  | _, _ => false

/-- Equal arrays have equally many items and agree on each. -/
def sameItems (numbers : Number → Number → Bool) : List Value → List Value → Bool
  | [], [] => true
  | a :: as, b :: bs => sameBy numbers a b && sameItems numbers as bs
  | _, _ => false

/-- Every field of the first object has an equal one in the second. -/
def sameFields (numbers : Number → Number → Bool) : List (String × Value) → Fields → Bool
  | [], _ => true
  | (key, a) :: rest, other =>
    (match Dictionary.find? other key with
      | some b => sameBy numbers a b
      | none => false) &&
    sameFields numbers rest other

end

/-- Equality of conditions: numbers compare by value. -/
def equal (a b : Value) : Bool := sameBy Number.sameValue a b

/-- Equality that keeps integers and doubles apart. -/
def identical (a b : Value) : Bool := sameBy Number.sameKind a b

/-- Order of strings by code points. -/
def compareText (a b : String) : Ordering :=
  if a < b then .lt else if a = b then .eq else .gt

/-- Order of numbers and of strings; `none` for any other pair. -/
def compare? : Value → Value → Option Ordering
  | .num a, .num b => some (a.compare b)
  | .str a, .str b => some (compareText a b)
  | _, _ => none

end Turnstile.Value
