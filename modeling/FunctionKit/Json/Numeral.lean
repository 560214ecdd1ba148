import FunctionKit.Binary64.Rounding
import FunctionKit.Json.Basic
import FunctionKit.Text.Decimal

/-!
# Numerals in JSON text

A numeral without point and exponent that fits a word of 64 bits is a whole number, any other
one is fractional. A fractional number is read from as many leading digits as fit 64 bits and a
power of ten: both are rounded, then their product or quotient is.
-/

namespace FunctionKit.Json

set_option autoImplicit false

open FunctionKit.Text

/-- Why a text is not the JSON that was asked for: it ends inside a value, it is not JSON, or it
is the JSON of another kind of value. -/
inductive ReadError
  | unfinished
  | malformed
  | mismatched
deriving DecidableEq, Repr

/-- What was read, and the text after it. -/
abbrev Reading (α : Type) := Except ReadError (α × List Char)

/-- A text that stops short is unfinished, one that goes on wrongly is malformed. -/
def unexpected {α : Type} (text : List Char) : Except ReadError α :=
  if text.isEmpty then .error .unfinished else .error .malformed

def fitsWord (value : Nat) : Bool :=
  value < Nat.pow 2 64

/-- The leading digits of a whole part that fit a word, and the count of those that do not. -/
def keepWhole : Nat → Nat → List Char → Nat × Nat
  | kept, dropped, [] => (kept, dropped)
  | kept, dropped, c :: rest =>
    let next := kept * 10 + digitValue c
    if dropped = 0 && fitsWord next then keepWhole next 0 rest
    else keepWhole kept (dropped + 1) rest

/-- The digits after the point that still fit, and their count. The others are ignored. -/
def keepPlaces : Nat → Nat → List Char → Nat × Nat
  | kept, places, [] => (kept, places)
  | kept, places, c :: rest =>
    let next := kept * 10 + digitValue c
    if fitsWord next then keepPlaces next (places + 1) rest else (kept, places)

/-- A word times a power of ten. Nothing is beyond the range downwards, where the number fades to
zero; upwards there is no number. -/
def scaled? (kept : Nat) (power : Int) : Option Binary64 :=
  let start := Binary64.ofNat kept
  if kept = 0 then some .zero
  else if 308 < power then none
  else if 0 ≤ power then
    let product := start.multiply (Binary64.ofNat (Nat.pow 10 power.toNat))
    if product.isFinite then some product else none
  else
    let places := (-power).toNat
    if places ≤ 308 then some (start.divide (Binary64.ofNat (Nat.pow 10 places)))
    else if places ≤ 616 then
      let reduced := start.divide (Binary64.ofNat (Nat.pow 10 308))
      some (reduced.divide (Binary64.ofNat (Nat.pow 10 (places - 308))))
    else some .zero

/-- A fractional number from its digits, its power of ten and its sign. -/
def finishScaled (negative : Bool) (kept : Nat) (power : Int) (rest : List Char) : Reading Number :=
  match scaled? kept power with
  | none => .error .malformed
  | some value => .ok (.fractional (if negative then value.negate else value), rest)

/-- A whole number. Zero with a sign and a number below the signed range are fractional. -/
def wholeNumber (negative : Bool) (kept : Nat) : Number :=
  if !negative then .whole kept
  else if 0 < kept && kept ≤ Nat.pow 2 63 then .whole (-kept)
  else .fractional (Binary64.ofNat kept).negate

/-- The sign of an exponent, and the text after it. -/
def exponentSign : List Char → Bool × List Char
  | '-' :: rest => (true, rest)
  | '+' :: rest => (false, rest)
  | rest => (false, rest)

/-- The exponent after its mark. One that does not fit a signed word of 32 bits leaves only zero,
or no number if it is positive and the digits are not all zero. -/
def readExponent (negative : Bool) (kept : Nat) (power : Int) (text : List Char) :
    Reading Number :=
  let (downwards, text) := exponentSign text
  let run := text.takeWhile Char.isDigit
  let rest := text.dropWhile Char.isDigit
  if run.isEmpty then unexpected text
  else
    let size := digitsValue run
    if Nat.pow 2 31 ≤ size then
      if kept ≠ 0 && !downwards then .error .malformed
      else .ok (.fractional (if negative then Binary64.zero.negate else .zero), rest)
    else finishScaled negative kept (if downwards then power - size else power + size) rest

def isExponentMark (c : Char) : Bool :=
  c = 'e' || c = 'E'

/-- What may follow the digits of a fractional number: an exponent or nothing. -/
def finishFractional (negative : Bool) (kept : Nat) (power : Int) (text : List Char) :
    Reading Number :=
  match text with
  | mark :: rest =>
    if isExponentMark mark then readExponent negative kept power rest
    else finishScaled negative kept power text
  | [] => finishScaled negative kept power text

/-- The places after the point, of which there is at least one. -/
def readPlaces (negative : Bool) (kept dropped : Nat) (text : List Char) : Reading Number :=
  let run := text.takeWhile Char.isDigit
  if run.isEmpty then unexpected text
  else
    let (kept, places) := keepPlaces kept 0 run
    finishFractional negative kept (Int.ofNat dropped - Int.ofNat places)
      (text.dropWhile Char.isDigit)

/-- What follows the whole part decides the kind of number. -/
def finishWhole (negative : Bool) (kept dropped : Nat) (text : List Char) : Reading Number :=
  match text with
  | '.' :: rest => readPlaces negative kept dropped rest
  | mark :: rest =>
    if isExponentMark mark then readExponent negative kept dropped rest
    else if dropped = 0 then .ok (wholeNumber negative kept, text)
    else finishScaled negative kept dropped text
  | [] =>
    if dropped = 0 then .ok (wholeNumber negative kept, text)
    else finishScaled negative kept dropped text

/-- A numeral after its sign. A zero in front of other digits is malformed. -/
def readMagnitude (negative : Bool) (text : List Char) : Reading Number :=
  match text.takeWhile Char.isDigit with
  | [] => unexpected text
  | '0' :: _ :: _ => .error .malformed
  | run =>
    let (kept, dropped) := keepWhole 0 0 run
    finishWhole negative kept dropped (text.dropWhile Char.isDigit)

def readNumber : List Char → Reading Number
  | '-' :: rest => readMagnitude true rest
  | text => readMagnitude false text

end FunctionKit.Json
