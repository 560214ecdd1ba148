import FunctionKit.Json.WriteError
import FunctionKit.Logging.Delivery
import FunctionKit.Logging.Settings

/-!
# Service loggers

A logger writes for a service. The service logger owns the entry with the service's name and one
handler; child loggers have entries below it, no handler of their own, and the same formatter, so
a key bound through any of them shows in all lines of the service.
-/

namespace FunctionKit.Logging

set_option autoImplicit false

structure Logger where
  registry : Nat
  service : String
  /-- The part of the name after the service, for a child logger. -/
  child : Option String
  logEvent : Bool
deriving DecidableEq, Repr

/-- What a logger is built from. Without a stream the service writes to standard output. -/
structure Blueprint where
  registry : Nat
  settings : Settings
  child : Option String
  stream : Option Nat
deriving DecidableEq

/-- A random number from zero to below one. -/
structure Draw where
  value : Binary64
  not_below_zero : Binary64.zero.le value = true := by decide
  below_one : value.lt .one = true := by decide

def Draw.least : Draw :=
  { value := .zero }

/-- The call that makes a record: where it stands and when it is made. -/
structure CallSite where
  location : String
  time : Timestamp
deriving DecidableEq, Repr

structure Invocation where
  requestId : String
  functionArn : String
  functionName : String
  memorySize : Int
  traceId : Option String
deriving DecidableEq, Repr

def childName (service : String) : Option String → String
  | none => service
  | some child => stem service ++ child

namespace Blueprint

def logger (blueprint : Blueprint) : Logger :=
  { registry := blueprint.registry
    service := blueprint.settings.service
    child := blueprint.child
    logEvent := blueprint.settings.logEvent }

/-- The handler of a service: a stream or standard output, with the formatter of the service. -/
def handler (blueprint : Blueprint) : Handler :=
  { outlet := some <| match blueprint.stream with
      | some id => .stream id
      | none => .standardOutput
    formatter := some (.service blueprint.registry blueprint.settings.service)
    level := .notSet }

def isSampling (blueprint : Blueprint) : Bool :=
  Binary64.zero.lt blueprint.settings.sampleRate

/-- The level of a new service logger: debug with the probability of its sample rate. -/
def level (blueprint : Blueprint) (draw : Draw) : Level :=
  if blueprint.isSampling && draw.value.le blueprint.settings.sampleRate then .debug
  else blueprint.settings.level

end Blueprint

namespace Logger

def name (logger : Logger) : String :=
  childName logger.service logger.child

def isChild (logger : Logger) : Bool :=
  logger.child.isSome

def formatter (logger : Logger) : Formatter :=
  .service logger.registry logger.service

def handler? (logger : Logger) (state : State) : Option Handler :=
  ((state.registry logger.registry).get? logger.service).bind fun entry => entry.handlers.head?

def level (logger : Logger) (state : State) : Level :=
  (state.registry logger.registry).effectiveLevel logger.name

def parentName? (logger : Logger) (state : State) : Option String :=
  ((state.registry logger.registry).get? logger.name).bind Entry.parent

def boundKeys (logger : Logger) (state : State) : Fields :=
  state.boundKeys logger.formatter

end Logger

namespace State

/-! ## Building -/

/-- Registers what a logger needs. A service logger takes over its entry, a child logger leaves
every entry as it is; either binds the sample rate when it is above zero. -/
def build (state : State) (blueprint : Blueprint) (draw : Draw) : State :=
  let service := blueprint.settings.service
  let registered := state.register blueprint.registry service
  let keyed :=
    if blueprint.isSampling then
      registered.modifyKeys blueprint.registry service
        (BoundKeys.append [("sampling_rate", .ofBinary64 blueprint.settings.sampleRate)])
    else registered
  match blueprint.child with
  | some _ => keyed.register blueprint.registry blueprint.logger.name
  | none =>
    keyed.modifyEntry blueprint.registry service fun entry =>
      { entry with
        handlers := [blueprint.handler]
        propagate := false
        level := blueprint.level draw }

/-! ## Keys -/

def appendKeys (state : State) (logger : Logger) (pairs : List (String × Json)) : State :=
  state.modifyKeys logger.registry logger.service (BoundKeys.append pairs)

def removeKeys (state : State) (logger : Logger) (keys : List String) : State :=
  state.modifyKeys logger.registry logger.service (BoundKeys.remove keys)

def clearKeys (state : State) (logger : Logger) : State :=
  state.modifyKeys logger.registry logger.service BoundKeys.clear

/-- Binds keys beside those that are bound, or in their place. -/
def structureKeys (state : State) (logger : Logger) (keep : Bool)
    (pairs : List (String × Json)) : State :=
  let start := if keep then state else state.clearKeys logger
  start.appendKeys logger pairs

/-- Binds what is known of an invocation. Only the first one of a process starts cold. -/
def injectInvocation (state : State) (logger : Logger) (invocation : Invocation) : State :=
  { state with coldStart := false }.appendKeys logger
    [("function_name", .string invocation.functionName),
     ("function_memory_size", .ofInt invocation.memorySize),
     ("function_arn", .string invocation.functionArn),
     ("function_request_id", .string invocation.requestId),
     ("cold_start", .bool state.coldStart),
     ("xray_trace_id", .ofOption invocation.traceId)]

/-- The level of a service is set for all its loggers. -/
def setServiceLevel (state : State) (logger : Logger) (level : Level) : State :=
  state.modifyEntry logger.registry logger.service fun entry => { entry with level }

/-! ## Logging -/

def log (state : State) (logger : Logger) (site : CallSite) (level : Level)
    (message : String) (extra : Fields) : State :=
  state.deliver .call logger.registry logger.name
    { level
      logger := logger.name
      message
      location := site.location
      timestamp := site.time
      extra }

def logException (state : State) (logger : Logger) (site : CallSite) (message : String)
    (causes : List String) : State :=
  state.log logger site .error message
    [("exception", .string (String.intercalate ": " causes))]

/-- Logs an incoming event if the logger does so. An event without a JSON form is shown by the
message that says why. -/
def logIncoming (state : State) (logger : Logger) (site : CallSite)
    (event : Except Json.WriteError Json) : State :=
  if logger.logEvent then
    let shown := match event with
      | .ok value => value
      | .error error => .string error.message
    state.log logger site .info "incoming event" [("event", shown)]
  else state

end State

end FunctionKit.Logging
