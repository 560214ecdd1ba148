import FunctionKit.Binary64.Basic
import FunctionKit.Dict

/-!
# JSON values

Payloads, bound keys and log lines are JSON values. Whole numbers and fractional numbers are
kept apart: `1` and `1.0` are different values, while `0.0` and `-0.0` are the same one.
-/

namespace FunctionKit

set_option autoImplicit false

inductive Number
  | whole (value : Int)
  | fractional (value : Binary64)
deriving DecidableEq, Repr

inductive Json
  | null
  | bool (value : Bool)
  | number (value : Number)
  | string (value : String)
  | array (items : List Json)
  | object (members : List (String × Json))
deriving Repr, Inhabited

/-- The members of an object, in ascending order of their keys. -/
abbrev Fields := Dict Json

namespace Number

/-- Whole numbers fit a signed or an unsigned word of 64 bits, fractional ones are finite. -/
def Representable : Number → Prop
  | .whole value => -Int.pow 2 63 ≤ value ∧ value < Int.pow 2 64
  | .fractional value => value.isFinite = true

def same : Number → Number → Bool
  | .whole first, .whole second => first = second
  | .fractional first, .fractional second => first.sameNumber second
  | _, _ => false

end Number

namespace Json

def ofInt (value : Int) : Json :=
  .number (.whole value)

/-- A number that is not finite has no JSON form and becomes `null`. -/
def ofBinary64 (value : Binary64) : Json :=
  if value.isFinite then .number (.fractional value) else .null

def ofOption : Option String → Json
  | none => .null
  | some text => .string text

def isNull : Json → Bool
  | .null => true
  | _ => false

def asString? : Json → Option String
  | .string value => some value
  | _ => none

def asBool? : Json → Option Bool
  | .bool value => some value
  | _ => none

def asObject? : Json → Option Fields
  | .object members => some members
  | _ => none

mutual

/-- Equality of values, with numbers compared as numbers. -/
def same : Json → Json → Bool
  | .null, .null => true
  | .bool first, .bool second => first = second
  | .number first, .number second => first.same second
  | .string first, .string second => first = second
  | .array first, .array second => sameItems first second
  | .object first, .object second => sameMembers first second
  | _, _ => false

def sameItems : List Json → List Json → Bool
  | [], [] => true
  | first :: rest, other :: others => same first other && sameItems rest others
  | _, _ => false

def sameMembers : List (String × Json) → List (String × Json) → Bool
  | [], [] => true
  | (key, value) :: rest, (otherKey, other) :: others =>
    key = otherKey && same value other && sameMembers rest others
  | _, _ => false

end

end Json

end FunctionKit
