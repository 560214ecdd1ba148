import FunctionKit.Binary64.Rounding
import FunctionKit.Text.Decimal

/-!
# The shortest decimal of a number

The fewest digits that read back as the same number, of those the nearest decimal, and of two
equally near the even one. The search is exact: on each grid of decimals only the two
neighbours of the number can be hits.
-/

namespace FunctionKit.Binary64

set_option autoImplicit false

open FunctionKit.Text

/-- The decimals that round to a number, in units of a quarter of its last place. -/
structure Basin where
  low : Nat
  middle : Nat
  high : Nat
  closed : Bool

/-- The basin is narrower on the lower side just above a power of two. -/
def basin (x : Binary64) : Basin :=
  let m := x.significand
  let narrow := m = Nat.pow 2 52 ∧ 1 < x.body / Nat.pow 2 52
  { low := if narrow then 4 * m - 1 else 4 * m - 2
    middle := 4 * m
    high := 4 * m + 2
    closed := m % 2 = 0 }

/-- A decimal `count · 10 ^ power` beside a count of quarter places, over one denominator. -/
def aligned (x : Binary64) (count : Nat) (power : Int) (quarters : Nat) : Nat × Nat :=
  let place := x.exponent - 2
  (count * Nat.pow 10 power.toNat * Nat.pow 2 (-place).toNat,
   quarters * Nat.pow 2 place.toNat * Nat.pow 10 (-power).toNat)

def inBasin (x : Binary64) (count : Nat) (power : Int) : Bool :=
  let b := x.basin
  let (value, low) := x.aligned count power b.low
  let (_, high) := x.aligned count power b.high
  if b.closed then low ≤ value && value ≤ high else low < value && value < high

/-- How far a decimal lies from the number, over the denominator of `aligned`. -/
def distance (x : Binary64) (count : Nat) (power : Int) : Nat :=
  let (value, middle) := x.aligned count power x.basin.middle
  (value - middle) + (middle - value)

/-- The greatest `k` with `10 ^ k` not above the number, which is positive. -/
def decimalExponent (x : Binary64) : Int :=
  let (num, den) := x.toRatio
  Int.ofNat (digits (num * Nat.pow 10 330 / den)).length - 331

/-- The count of grid steps just below the number on the grid of multiples of `10 ^ power`. -/
def gridFloor (x : Binary64) (power : Int) : Nat :=
  let (num, den) := x.toRatio
  num * Nat.pow 10 (-power).toNat / (den * Nat.pow 10 power.toNat)

/-- The hit on one grid, the nearer of two and the even one of two equally near. -/
def gridHit? (x : Binary64) (power : Int) : Option Nat :=
  let below := x.gridFloor power
  let above := below + 1
  match x.inBasin below power, x.inBasin above power with
  | false, false => none
  | true, false => some below
  | false, true => some above
  | true, true =>
    let down := x.distance below power
    let up := x.distance above power
    if down < up then some below
    else if up < down then some above
    else if below % 2 = 0 then some below else some above

/-- Drops the zeros at the end of a count, each moving the power up by one. -/
def dropZeros : Nat → Nat → Int → Nat × Int
  | 0, count, power => (count, power)
  | steps + 1, count, power =>
    if count % 10 = 0 then dropZeros steps (count / 10) (power + 1) else (count, power)

/-- The shortest decimal of a finite number above zero, as a count and a power of ten. Seventeen
digits always suffice. -/
def shortest (x : Binary64) : Nat × Int :=
  let top := x.decimalExponent
  let hit := (List.range 17).findSome? fun more =>
    let power := top - Int.ofNat more
    (x.gridHit? power).map fun count => (count, power)
  match hit with
  | some (count, power) => dropZeros 17 count power
  | none => (x.gridFloor (top - 16), top - 16)

end FunctionKit.Binary64
