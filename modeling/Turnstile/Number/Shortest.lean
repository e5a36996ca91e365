import Turnstile.Number.Binary64

/-!
# The shortest decimal digits of a double

Every positive double is the nearest one to a whole interval of reals.  `shortest` looks
for the coarsest decimal grid with a point in that interval, and takes the grid point
closest to the double itself.  On one grid it is enough to test the two neighbours of
the double.
-/

set_option autoImplicit false

namespace Turnstile.Binary64

/-- Decimal digits with a position: the value is `digits * 10 ^ exponent`. -/
structure Decimal where
  digits : Nat
  exponent : Int
deriving DecidableEq, Repr

/-- Four times the significand of a magnitude, and the two ends of its rounding
interval, all in units of a quarter of `2 ^ scale / 2 ^ 1074`.  The interval is half as
wide below a power of two. -/
def interval (m : Nat) : Nat × Nat × Nat :=
  let s := significand m
  let lower := if s = binade ∧ 2 * binade ≤ m then 4 * s - 1 else 4 * s - 2
  (lower, 4 * s, 4 * s + 2)

/-- The point of the grid `10 ^ k` closest to the double `m` that rounds to it, if the
grid has one.  Lengths are compared after bringing them to the common unit
`unit / (4 * 2 ^ 1074)`. -/
def gridPoint? (m : Nat) (k : Int) : Option Nat :=
  let (lo, mid, hi) := interval m
  -- One step of the grid and the three reals, all over one denominator.
  let up := Nat.pow 2 (scale m) * (if k < 0 then Nat.pow 10 (-k).toNat else 1)
  let step := 4 * Nat.pow 2 1074 * (if k < 0 then 1 else Nat.pow 10 k.toNat)
  let low := lo * up
  let centre := mid * up
  let high := hi * up
  let even := m % 2 == 0
  let inside (d : Nat) : Bool :=
    let x := d * step
    if even then low ≤ x && x ≤ high else low < x && x < high
  let d := centre / step
  let below := inside d && d > 0
  let above := inside (d + 1)
  match below, above with
  | false, false => none
  | true, false => some d
  | false, true => some (d + 1)
  | true, true =>
    let gapBelow := centre - d * step
    let gapAbove := (d + 1) * step - centre
    if gapBelow < gapAbove then some d
    else if gapAbove < gapBelow then some (d + 1)
    else some (d + d % 2)

/-- The first grid, from the coarsest `10 ^ k` down, that has a point for the double. -/
def firstGrid (m : Nat) (k : Int) : Nat → Decimal
  | 0 => ⟨0, k⟩
  | fuel + 1 =>
    match gridPoint? m k with
    | some d => ⟨d, k⟩
    | none => firstGrid m (k - 1) fuel

/-- Remove trailing zeros of the digits. -/
def Decimal.normalise (d : Decimal) : Nat → Decimal
  | 0 => d
  | fuel + 1 =>
    if d.digits % 10 = 0 ∧ d.digits ≠ 0 then
      Decimal.normalise ⟨d.digits / 10, d.exponent + 1⟩ fuel
    else d

/-- The decimal power of the first digit of a positive double, rounded down to at most
one below. -/
def decimalPower (m : Nat) : Int :=
  let v := significand m * Nat.pow 2 (scale m)
  let whole := v / Nat.pow 2 1074
  if whole > 0 then ((Nat.toDigits 10 whole).length : Int) - 1
  else
    -- `v < 2 ^ 1074`: count the digits that the reciprocal has.
    -((Nat.toDigits 10 (Nat.pow 2 1074 / v)).length : Int)

/-- The shortest digits that round to the positive double `m`, closest to it among
those. -/
def shortest (m : Nat) : Decimal :=
  (firstGrid m (decimalPower m + 1) 20).normalise 20

end Turnstile.Binary64
