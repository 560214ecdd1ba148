import FunctionKit.Binary64.Rounding
import FunctionKit.Text.Decimal

/-!
# Reading a number from decimal text

The form of a number in a setting: an optional sign, digits with an optional point and at least
one digit on one side of it, an optional exponent; or a name of infinity or NaN in any letter
case. The value is the number nearest to the text.
-/

namespace FunctionKit.Binary64

set_option autoImplicit false

open FunctionKit.Text

/-- A positive power of ten times a natural, as the nearest number. Exponents that are far out of
range are decided by the count of digits, so no large power is computed. -/
def ofDecimal (negative : Bool) (coefficient : Nat) (power : Int) : Binary64 :=
  let order := Int.ofNat (digits coefficient).length + power
  if coefficient = 0 then ofBody negative 0
  else if 400 < order then infinity negative
  else if order < -400 then ofBody negative 0
  else if 0 ≤ power then ofRatio negative (coefficient * Nat.pow 10 power.toNat) 1
  else ofRatio negative coefficient (Nat.pow 10 (-power).toNat)

/-- A sign in front of a text, and the text after it. -/
def splitSign : List Char → Bool × List Char
  | '-' :: rest => (true, rest)
  | '+' :: rest => (false, rest)
  | rest => (false, rest)

/-- The exponent that ends a number: nothing, or a mark, a sign and at least one digit. -/
def readExponent? : List Char → Option Int
  | [] => some 0
  | mark :: rest =>
    if mark = 'e' ∨ mark = 'E' then
      let (negative, run) := splitSign rest
      if run.isEmpty || !run.all Char.isDigit then none
      else
        let size := Int.ofNat (digitsValue run)
        some (if negative then -size else size)
    else none

/-- The digits before and after the point, and what follows them. -/
def splitPoint (text : List Char) : List Char × List Char × List Char :=
  let whole := text.takeWhile Char.isDigit
  match text.dropWhile Char.isDigit with
  | '.' :: rest => (whole, rest.takeWhile Char.isDigit, rest.dropWhile Char.isDigit)
  | rest => (whole, [], rest)

def ofText? (text : List Char) : Option Binary64 :=
  let (negative, body) := splitSign text
  let name := String.ofList (body.map Char.toLower)
  if name = "inf" ∨ name = "infinity" then some (infinity negative)
  else if name = "nan" then some nan
  else
    let (whole, part, rest) := splitPoint body
    if whole.isEmpty && part.isEmpty then none
    else
      (readExponent? rest).map fun shift =>
        ofDecimal negative (digitsValue (whole ++ part)) (shift - Int.ofNat part.length)

end FunctionKit.Binary64
