import FunctionKit.Binary64.DecimalText
import FunctionKit.Logging.Diagnostic
import FunctionKit.Text.Encoding
import FunctionKit.Text.LowerCase

/-!
# Settings from the environment

The settings a logger starts from, each decided by one variable. A value that cannot be used
leaves the default; for the level and the sample rate that is reported.
-/

namespace FunctionKit.Logging

set_option autoImplicit false

open FunctionKit.Text

abbrev Environment := String → Option String

namespace Environment

/-- Variables whose bytes are not valid UTF-8 count as unset. -/
def ofBytes (raw : String → Option (List UInt8)) : Environment :=
  fun name => (raw name).bind ofUtf8?

end Environment

structure Settings where
  service : String
  level : Level
  /-- The probability that a new logger records at debug level. -/
  sampleRate : Binary64
  logEvent : Bool
deriving DecidableEq

namespace Settings

def serviceVariable : String := "POWERTOOLS_SERVICE_NAME"

def levelVariable : String := "LOG_LEVEL"

def sampleRateVariable : String := "POWERTOOLS_LOGGER_SAMPLE_RATE"

def logEventVariable : String := "POWERTOOLS_LOGGER_LOG_EVENT"

def default : Settings :=
  { service := "service_undefined", level := .info, sampleRate := .zero, logEvent := false }

def same (first second : Settings) : Bool :=
  first.service = second.service && first.level = second.level &&
    first.sampleRate.sameNumber second.sampleRate && first.logEvent = second.logEvent

def readService (text? : Option String) : String :=
  match text? with
  | some text => if allBlank text.toList then default.service else text
  | none => default.service

def readLevel (text? : Option String) : Level × List Diagnostic :=
  match text? with
  | none => (default.level, [])
  | some text =>
    match Level.ofText text with
    | .ok level => (level, [])
    | .error unknown => (default.level, [.levelIgnored unknown])

/-- A probability: not below zero and not above one, which NaN is not. -/
def isProbability (rate : Binary64) : Bool :=
  Binary64.zero.le rate && rate.le .one

def readSampleRate (text? : Option String) : Binary64 × List Diagnostic :=
  match text? with
  | none => (default.sampleRate, [])
  | some text =>
    match (Binary64.ofText? (trim text.toList)).filter isProbability with
    | some rate => (rate, [])
    | none => (default.sampleRate, [.sampleRateIgnored text])

def affirmatives : List String := ["1", "true", "yes", "on"]

/-- A capital sigma has no small form in ASCII, so a text with one is none of the words. -/
def readLogEvent (text? : Option String) : Bool :=
  match text? with
  | none => default.logEvent
  | some text =>
    (lowerCase? (trim text.toList)).any fun small => affirmatives.contains (String.ofList small)

def ofEnvironment (environment : Environment) : Settings × List Diagnostic :=
  let (level, levelReports) := readLevel (environment levelVariable)
  let (sampleRate, rateReports) := readSampleRate (environment sampleRateVariable)
  ({ service := readService (environment serviceVariable)
     level
     sampleRate
     logEvent := readLogEvent (environment logEventVariable) },
   levelReports ++ rateReports)

end Settings

end FunctionKit.Logging
