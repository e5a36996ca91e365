/-!
# Finite double-precision numbers

A finite double is kept as a sign and a *magnitude*: the position of its absolute value
in the increasing list of non-negative finite doubles.  Position `0` is zero, position
`1` is the smallest subnormal, and every block of `2 ^ 52` positions after the first
shares one power of two.  Order on absolute values is therefore order on natural
numbers, and all arithmetic below is exact arithmetic on `Nat` followed by one rounding.

* `significand` and `scale` decode a magnitude: its value is
  `significand m * 2 ^ scale m / 2 ^ 1074`.
* `nearest?` rounds a quotient of natural numbers to the closest double, ties to even.
* `compare` orders doubles by value; the two zeros are equal.
-/

set_option autoImplicit false

namespace Turnstile

/-- Number of positions that share one power of two. -/
def binade : Nat := 0x10000000000000

/-- The number of non-negative finite doubles. -/
def finiteLimit : Nat := 2047 * binade

/-- A finite double: a sign and a position among the non-negative finite doubles. -/
structure Binary64 where
  negative : Bool
  magnitude : Nat
  finite : magnitude < finiteLimit
deriving DecidableEq

namespace Binary64

/-- Positive zero. -/
def zero : Binary64 := ⟨false, 0, by decide⟩

/-- Negative zero, equal to positive zero in value. -/
def negativeZero : Binary64 := ⟨true, 0, by decide⟩

instance : Inhabited Binary64 := ⟨zero⟩

/-- The integer factor of a magnitude. -/
def significand (m : Nat) : Nat :=
  if m < binade then m else m % binade + binade

/-- How often the least positive double `2 ^ -1074` is doubled to give the other
factor. -/
def scale (m : Nat) : Nat :=
  m / binade - 1

/-- A double is zero when its magnitude is, whatever its sign. -/
def isZero (x : Binary64) : Bool := x.magnitude == 0

/-- The quotient `num / den`, rounded to the nearest integer with ties to even. -/
def roundQuotient (num den : Nat) : Nat :=
  let q := num / den
  let r := num % den
  if 2 * r < den then q
  else if den < 2 * r then q + 1
  else q + q % 2

/-- The power `k` for which `num / den` lies in `[2 ^ k, 2 ^ (k + 1))`, as an integer.
Both arguments are positive. -/
def leadingPower (num den : Nat) : Int :=
  let k : Int := (num.log2 : Int) - (den.log2 : Int)
  let fits := if k ≥ 0 then den * Nat.pow 2 k.toNat ≤ num
    else den ≤ num * Nat.pow 2 (-k).toNat
  if fits then k else k - 1

/-- The magnitude nearest to `num / den`; it may lie beyond the largest finite one. -/
def nearestMagnitude (num den : Nat) : Nat :=
  if num = 0 then 0
  else
    let q : Int := max (-1074) (leadingPower num den - 52)
    let n :=
      if q ≥ 0 then roundQuotient num (den * Nat.pow 2 q.toNat)
      else roundQuotient (num * Nat.pow 2 (-q).toNat) den
    (q + 1074).toNat * binade + n

/-- The double with this sign and magnitude; `none` when the magnitude is out of range. -/
def ofMagnitude? (negative : Bool) (m : Nat) : Option Binary64 :=
  if h : m < finiteLimit then some ⟨negative, m, h⟩ else none

/-- The double nearest to `±num / den`, or `none` when that is infinite. -/
def nearest? (negative : Bool) (num den : Nat) : Option Binary64 :=
  ofMagnitude? negative (nearestMagnitude num den)

/-- The double nearest to an integer.  Integers of this program stay below `2 ^ 64`, so
the rounding is always finite; larger ones stop at the largest double. -/
def ofInt (n : Int) : Binary64 :=
  match nearest? (n < 0) n.natAbs 1 with
  | some x => x
  | none => ⟨n < 0, finiteLimit - 1, by decide⟩

/-- The position of a double on the signed line; both zeros sit at `0`. -/
def signedMagnitude (x : Binary64) : Int :=
  if x.negative then -(x.magnitude : Int) else x.magnitude

/-- Order by value. -/
def compare (x y : Binary64) : Ordering :=
  Ord.compare x.signedMagnitude y.signedMagnitude

/-- Equality by value. -/
def sameValue (x y : Binary64) : Bool :=
  x.signedMagnitude == y.signedMagnitude

/-- `x * k` rounded to the nearest double and then cut to an integer toward zero.
`none` when the product is not finite. -/
def scaledInt? (x : Binary64) (k : Nat) : Option Int :=
  match nearest? x.negative (significand x.magnitude * Nat.pow 2 (scale x.magnitude) * k)
    (Nat.pow 2 1074) with
  | none => none
  | some y =>
    let whole : Nat :=
      significand y.magnitude * Nat.pow 2 (scale y.magnitude) / Nat.pow 2 1074
    some (if y.negative then -(whole : Int) else (whole : Int))

/-- The double nearest to `±digits * 10 ^ exponent`.  `none` when it is infinite.
Exponents far outside the range of doubles are decided without computing the power. -/
def ofDecimal? (negative : Bool) (digits : Nat) (exponent : Int) : Option Binary64 :=
  if digits = 0 then some ⟨negative, 0, by decide⟩
  else
    -- `digits` lies in `[10 ^ (len - 1), 10 ^ len)`.
    let len : Int := (Nat.toDigits 10 digits).length
    if len + exponent > 310 then none
    else if len + exponent < -330 then some ⟨negative, 0, by decide⟩
    else if exponent ≥ 0 then nearest? negative (digits * Nat.pow 10 exponent.toNat) 1
    else nearest? negative digits (Nat.pow 10 (-exponent).toNat)

end Binary64

end Turnstile
