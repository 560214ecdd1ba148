/-!
# Decimal digits of natural numbers

Writing a number in base ten, with or without a least number of digits, and the value of a run of
digits.
-/

namespace FunctionKit.Text

set_option autoImplicit false

/-- The digits of a number, most significant first and without leading zeros. -/
def digits (n : Nat) : List Char :=
  Nat.toDigits 10 n

/-- The digits of a number with zeros in front up to the given width. -/
def digitsPadded (width n : Nat) : List Char :=
  let shown := digits n
  List.replicate (width - shown.length) '0' ++ shown

def digitValue (c : Char) : Nat :=
  c.toNat - '0'.toNat

/-- The number that a run of digits stands for, read after the digits already seen. -/
def digitsValueFrom (seen : Nat) (run : List Char) : Nat :=
  run.foldl (fun value c => value * 10 + digitValue c) seen

def digitsValue (run : List Char) : Nat :=
  digitsValueFrom 0 run

def signedDigits : Int → List Char
  | .ofNat n => digits n
  | .negSucc n => '-' :: digits (n + 1)

/-- The value of a hexadecimal digit in either letter case. -/
def hexValue? (c : Char) : Option Nat :=
  if c.isDigit then some (c.toNat - '0'.toNat)
  else if 'a' ≤ c && c ≤ 'f' then some (c.toNat - 'a'.toNat + 10)
  else if 'A' ≤ c && c ≤ 'F' then some (c.toNat - 'A'.toNat + 10)
  else none

/-- The digits of a number in base sixteen, in lower case. -/
def hexDigits (n : Nat) : List Char :=
  Nat.toDigits 16 n

def hexDigitsPadded (width n : Nat) : List Char :=
  let shown := hexDigits n
  List.replicate (width - shown.length) '0' ++ shown

end FunctionKit.Text
