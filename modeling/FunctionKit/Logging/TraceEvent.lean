import FunctionKit.Logging.Logger

/-!
# Events of instrumented code

Code that knows nothing of the registry emits events with a target such as `pool::worker`. They
become records of the logger with that name in dotted form, which is registered on the way.
Events of the library itself are passed over.
-/

namespace FunctionKit.Logging

set_option autoImplicit false

/-- The name of the logger that the library itself owns. -/
def packageName : String := "powertools_lambda"

/-- Pairs of colons become dots, from the left. -/
def dotted : List Char → List Char
  | ':' :: ':' :: rest => '.' :: dotted rest
  | c :: rest => c :: dotted rest
  | [] => []

def nameOfTarget (target : String) : String :=
  String.ofList (dotted target.toList)

inductive TraceLevel
  | trace
  | debug
  | info
  | warn
  | error
deriving DecidableEq, Repr

/-- The two finest levels are one for records. -/
def TraceLevel.toLevel : TraceLevel → Level
  | .trace => .debug
  | .debug => .debug
  | .info => .info
  | .warn => .warning
  | .error => .error

/-- A recorded value. Values that are not of a basic type are recorded by how they show. -/
inductive TraceValue
  | text (value : String)
  | flag (value : Bool)
  | whole (value : Int)
  | fraction (value : Binary64)
  | shown (form : String)
deriving DecidableEq

def TraceValue.toJson : TraceValue → Json
  | .text value => .string value
  | .flag value => .bool value
  | .whole value => .ofInt value
  | .fraction value => .ofBinary64 value
  | .shown form => .string form

structure TraceEvent where
  target : String
  level : TraceLevel
  fields : List (String × TraceValue)
  file : Option String
  line : Option Nat
  modulePath : Option String

namespace TraceEvent

def isOwn (target : String) : Bool :=
  target = packageName || startsWith (packageName ++ "::") target

/-- A message and extra keys, as fields are visited one after the other. -/
structure Visited where
  message : String
  extra : Fields

def messageKey : String := "message"

/-- Text under the message's key is the message, anything else an extra key. -/
def visit (visited : Visited) (field : String × TraceValue) : Visited :=
  match field.2 with
  | .text value | .shown value =>
    if field.1 = messageKey then { visited with message := value }
    else { visited with extra := Dict.insert field.1 (.string value) visited.extra }
  | value => { visited with extra := Dict.insert field.1 value.toJson visited.extra }

def visited (event : TraceEvent) : Visited :=
  event.fields.foldl visit ⟨"", []⟩

/-- File and line, else the module, else the target. -/
def location (event : TraceEvent) : String :=
  match event.file, event.line with
  | some file, some line => file ++ ":" ++ String.ofList (Text.digits line)
  | _, _ => event.modulePath.getD event.target

def record (event : TraceEvent) (time : Timestamp) : Record :=
  { level := event.level.toLevel
    logger := nameOfTarget event.target
    message := event.visited.message
    location := event.location
    timestamp := time
    extra := event.visited.extra }

end TraceEvent

/-- Dispatches an event into a registry. A logger that does not record its level is asked before
the event is looked at. -/
def State.dispatch (state : State) (id : Nat) (event : TraceEvent) (time : Timestamp) :
    State :=
  if TraceEvent.isOwn event.target then state
  else
    let name := nameOfTarget event.target
    let registered := state.register id name
    if (registered.registry id).isEnabled name event.level.toLevel then
      registered.deliver .event id name (event.record time)
    else registered

end FunctionKit.Logging
