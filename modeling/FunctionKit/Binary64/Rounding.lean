import FunctionKit.Binary64.Basic

/-!
# Rounding a ratio to the nearest number

The nearest number to a ratio of naturals, a tie going to the even significand, computed exactly.
Products and quotients of numbers are rounded ratios.
-/

namespace FunctionKit.Binary64

set_option autoImplicit false

/-- The nearest natural to `num / den`, the even one of two that are equally near. -/
def roundHalfEven (num den : Nat) : Nat :=
  let quotient := num / den
  let twice := 2 * (num % den)
  if twice < den then quotient
  else if den < twice then quotient + 1
  else quotient + quotient % 2

/-- The greatest `e` with `2 ^ e ≤ num / den`, both being positive. -/
def floorLog2 (num den : Nat) : Int :=
  let guess := Int.ofNat num.log2 - Int.ofNat den.log2
  let reached : Bool :=
    if 0 ≤ guess then den * Nat.pow 2 guess.toNat ≤ num
    else den ≤ num * Nat.pow 2 (-guess).toNat
  if reached then guess else guess - 1

/-- The body of the number nearest to `num / den`. A significand that is rounded up to the next
power of two carries into the exponent, and past the largest number lies infinity. -/
def nearestBody (num den : Nat) : Nat :=
  if num = 0 then 0
  else
    let place := max (floorLog2 num den - 52) (-1074)
    let count :=
      if 0 ≤ place then roundHalfEven num (den * Nat.pow 2 place.toNat)
      else roundHalfEven (num * Nat.pow 2 (-place).toNat) den
    min ((place + 1074).toNat * Nat.pow 2 52 + count) infinityBody

def ofRatio (negative : Bool) (num den : Nat) : Binary64 :=
  ofBody negative (nearestBody num den)

def ofNat (n : Nat) : Binary64 :=
  ofRatio false n 1

/-- The magnitude of a finite number as a ratio of naturals. -/
def toRatio (x : Binary64) : Nat × Nat :=
  if 0 ≤ x.exponent then (x.significand * Nat.pow 2 x.exponent.toNat, 1)
  else (x.significand, Nat.pow 2 (-x.exponent).toNat)

def multiply (x y : Binary64) : Binary64 :=
  let (xNum, xDen) := x.toRatio
  let (yNum, yDen) := y.toRatio
  ofRatio (x.isNegative != y.isNegative) (xNum * yNum) (xDen * yDen)

/-- The rounded quotient of two finite numbers, the second not being zero. -/
def divide (x y : Binary64) : Binary64 :=
  let (xNum, xDen) := x.toRatio
  let (yNum, yDen) := y.toRatio
  ofRatio (x.isNegative != y.isNegative) (xNum * yDen) (xDen * yNum)

end FunctionKit.Binary64
