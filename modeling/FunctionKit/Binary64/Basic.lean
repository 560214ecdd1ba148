/-!
# Binary floating point numbers of 64 bits

A number is its interchange encoding: one sign bit, eleven exponent bits, fifty-two fraction bits.
A finite number is `significand · 2 ^ exponent`; comparison goes through an integer key that
grows with the number and gives both zeros the same place.
-/

namespace FunctionKit

set_option autoImplicit false

structure Binary64 where
  bits : UInt64
deriving DecidableEq, Repr

namespace Binary64

/-- The bits below the sign. -/
def body (x : Binary64) : Nat :=
  x.bits.toNat % Nat.pow 2 63

def isNegative (x : Binary64) : Bool :=
  Nat.pow 2 63 ≤ x.bits.toNat

/-- The body of infinity: all exponent bits set, no fraction bit. -/
def infinityBody : Nat :=
  0x7FF * Nat.pow 2 52

def isFinite (x : Binary64) : Bool :=
  x.body < infinityBody

def isNaN (x : Binary64) : Bool :=
  infinityBody < x.body

/-- The number with the given sign and the given bits below it. -/
def ofBody (negative : Bool) (body : Nat) : Binary64 :=
  ⟨UInt64.ofNat ((if negative then Nat.pow 2 63 else 0) + body)⟩

def zero : Binary64 := ofBody false 0

def infinity (negative : Bool) : Binary64 := ofBody negative infinityBody

def nan : Binary64 := ofBody false (infinityBody + Nat.pow 2 51)

def one : Binary64 := ofBody false (0x3FF * Nat.pow 2 52)

/-- The exponent of the last place, which the subnormal numbers share with the least normal ones. -/
def exponent (x : Binary64) : Int :=
  max (Int.ofNat (x.body / Nat.pow 2 52)) 1 - 1075

/-- The fraction, with the leading bit that a normal number does not store. -/
def significand (x : Binary64) : Nat :=
  if x.body / Nat.pow 2 52 = 0 then x.body else Nat.pow 2 52 + x.body % Nat.pow 2 52

/-- A place on the number line: the two zeros share one. Not meant for NaN. -/
def orderKey (x : Binary64) : Int :=
  if x.isNegative then -Int.ofNat x.body else Int.ofNat x.body

/-- Comparisons with NaN are false. -/
def le (x y : Binary64) : Bool :=
  !x.isNaN && !y.isNaN && x.orderKey ≤ y.orderKey

def lt (x y : Binary64) : Bool :=
  !x.isNaN && !y.isNaN && x.orderKey < y.orderKey

/-- Equality as numbers: the zeros are equal, NaN equals nothing. -/
def sameNumber (x y : Binary64) : Bool :=
  !x.isNaN && !y.isNaN && x.orderKey = y.orderKey

def negate (x : Binary64) : Binary64 :=
  ofBody (!x.isNegative) x.body

end Binary64

end FunctionKit
