import FunctionKit.Binary64.Shortest

/-!
# Laying out a decimal

How the shortest decimal of a number becomes text: written out with a point inside a range of
magnitudes, in scientific notation outside of it.
-/

namespace FunctionKit.Binary64

set_option autoImplicit false

open FunctionKit.Text

/-- A number `d.ddd · 10 ^ e` is written out when `e` lies in the closed range, and then always
has a digit after the point. Elsewhere a mark, a sign and the exponent follow the digits. -/
structure Layout where
  lowestWrittenOut : Int
  highestWrittenOut : Int
  exponentMark : Char

/-- The digits with a point after the first, or alone if there is only one. -/
def pointAfterFirst : List Char → List Char
  | first :: second :: rest => first :: '.' :: second :: rest
  | short => short

def writtenOut (shown : List Char) (power : Int) : List Char :=
  let order := Int.ofNat shown.length - 1 + power
  if 0 ≤ power then shown ++ List.replicate power.toNat '0' ++ ['.', '0']
  else if 0 ≤ order then
    shown.take (order + 1).toNat ++ '.' :: shown.drop (order + 1).toNat
  else '0' :: '.' :: (List.replicate (-order - 1).toNat '0' ++ shown)

def scientific (layout : Layout) (shown : List Char) (power : Int) : List Char :=
  let order := Int.ofNat shown.length - 1 + power
  pointAfterFirst shown ++
    layout.exponentMark :: (if order < 0 then '-' else '+') :: digits order.natAbs

def render (layout : Layout) (x : Binary64) : List Char :=
  let sign := if x.isNegative then ['-'] else []
  if x.body = 0 then sign ++ ['0', '.', '0']
  else
    let (count, power) := x.shortest
    let shown := digits count
    let order := Int.ofNat shown.length - 1 + power
    let written :=
      if layout.lowestWrittenOut ≤ order && order ≤ layout.highestWrittenOut then
        writtenOut shown power
      else scientific layout shown power
    sign ++ written

end FunctionKit.Binary64
