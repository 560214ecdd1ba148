import FunctionKit.Text.Blank
import FunctionKit.Text.Decimal

/-!
# Severity levels

The severity of a record and the threshold of a logger or handler. `notSet` on a logger defers
to the loggers above it. A level is read from its name in any letter case, from two other
names, or from its number.
-/

namespace FunctionKit.Logging

set_option autoImplicit false

open FunctionKit.Text

inductive Level
  | notSet
  | debug
  | info
  | warning
  | error
  | critical
deriving DecidableEq, Repr, Inhabited

structure UnknownLevel where
  text : String
deriving DecidableEq, Repr

def UnknownLevel.message (unknown : UnknownLevel) : String :=
  "unknown log level '" ++ unknown.text ++ "'"

namespace Level

def all : List Level :=
  [.notSet, .debug, .info, .warning, .error, .critical]

def name : Level → String
  | .notSet => "NOTSET"
  | .debug => "DEBUG"
  | .info => "INFO"
  | .warning => "WARNING"
  | .error => "ERROR"
  | .critical => "CRITICAL"

def value : Level → Nat
  | .notSet => 0
  | .debug => 10
  | .info => 20
  | .warning => 30
  | .error => 40
  | .critical => 50

def passes (level threshold : Level) : Bool :=
  threshold.value ≤ level.value

def ofValue? (value : Nat) : Option Level :=
  all.find? fun level => level.value = value

/-- The level with a name in capitals. Warnings and critical records have a second name. -/
def ofName? (name : String) : Option Level :=
  if name = "WARN" then some .warning
  else if name = "FATAL" then some .critical
  else all.find? fun level => level.name = name

/-- A number below 256: digits, leading zeros among them, after at most one plus sign. -/
def readOctet? (text : List Char) : Option Nat :=
  let run := match text with
    | '+' :: rest => rest
    | rest => rest
  if run.isEmpty || !run.all Char.isDigit then none
  else
    let value := digitsValue run
    if value < 256 then some value else none

def ofText (text : String) : Except UnknownLevel Level :=
  let trimmed := trim text.toList
  let level? :=
    match readOctet? trimmed with
    | some value => ofValue? value
    | none => ofName? (String.ofList (trimmed.map Char.toUpper))
  match level? with
  | some level => .ok level
  | none => .error ⟨String.ofList trimmed⟩

end Level

end FunctionKit.Logging
