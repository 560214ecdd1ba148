import FunctionKit.Logging.Level

/-!
# Diagnostics

What the library reports about its own work, apart from the records it delivers. Who listens to the
reports, and which of them reach a listener, is not up to the library.
-/

namespace FunctionKit.Logging

set_option autoImplicit false

inductive Diagnostic
  | levelIgnored (unknown : UnknownLevel)
  | sampleRateIgnored (text : String)
  | writeFailed (logger fault : String)
  | nothingToCopy (source : String)
  | reconfigured (logger : String) (level : Level)
deriving DecidableEq, Repr

namespace Diagnostic

/-- Reconfigurations are of interest to developers only, anything else is a warning. -/
def severity : Diagnostic → String
  | .reconfigured _ _ => "DEBUG"
  | _ => "WARN"

def message : Diagnostic → String
  | .levelIgnored _ => "ignoring LOG_LEVEL"
  | .sampleRateIgnored _ =>
    "ignoring POWERTOOLS_LOGGER_SAMPLE_RATE, expected a number between 0 and 1"
  | .writeFailed _ _ => "failed to write log record"
  | .nothingToCopy _ => "source logger has no handler, nothing to copy"
  | .reconfigured _ _ => "logger reconfigured"

def fields : Diagnostic → List (String × String)
  | .levelIgnored unknown => [("err", unknown.message)]
  | .sampleRateIgnored text => [("value", text)]
  | .writeFailed logger fault => [("error", fault), ("logger", logger)]
  | .nothingToCopy source => [("source", source)]
  | .reconfigured logger level => [("level", level.name), ("logger", logger)]

end Diagnostic

/-- When a report is made: in a call of the program, or while an event is being dispatched. -/
inductive Occasion
  | call
  | event
deriving DecidableEq, Repr

structure Report where
  occasion : Occasion
  diagnostic : Diagnostic
deriving DecidableEq, Repr

/-- A listener to reports. Whether it hears one may depend on those that were made before. -/
structure Listener where
  hears : List Report → Report → Bool

namespace Listener

/-- What is heard of some reports that are made after others. -/
def heardAfter (listener : Listener) (earlier : List Report) : List Report → List Report
  | [] => []
  | next :: rest =>
    let later := listener.heardAfter (earlier ++ [next]) rest
    if listener.hears earlier next then next :: later else later

/-- Whatever is reported in a call is heard. -/
def HearsCalls (listener : Listener) : Prop :=
  ∀ earlier report, report.occasion = .call → listener.hears earlier report = true

/-- Hears what is reported in calls and nothing else. -/
def ofCalls : Listener :=
  { hears := fun _ report => report.occasion = .call }

end Listener

end FunctionKit.Logging
