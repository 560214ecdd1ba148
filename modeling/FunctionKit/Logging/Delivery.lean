import FunctionKit.Logging.State
import FunctionKit.Text.Encoding

/-!
# Delivering records

A record that is enabled on its logger is handed to the audience of that logger. A handler that it
passes writes one line and a line break. Faults of a stream never stop a delivery: each one is
reported, and the delivery goes on.
-/

namespace FunctionKit.Logging

set_option autoImplicit false

namespace State

/-- Offers bytes to an outlet. The fault says that it did not take all of them. -/
def offer (state : State) (outlet : Outlet) (bytes : List UInt8) : State × Option String :=
  match state.stream? outlet with
  | some (.limited limit fault) =>
    let room := limit - (state.contents outlet).length
    (state.emit (.written outlet (bytes.take room)),
     if room < bytes.length then some fault else none)
  | _ => (state.emit (.written outlet bytes), none)

/-- The fault of flushing an outlet. -/
def flushFault? (state : State) (outlet : Outlet) : Option String :=
  match state.stream? outlet with
  | some (.unflushable fault) => some fault
  | _ => none

/-- Writes a line, then a line break, then flushes, up to the first fault. -/
def writeLine (state : State) (outlet : Outlet) (line : String) : State × Option String :=
  match state.offer outlet (Text.utf8Bytes line) with
  | (state, some fault) => (state, some fault)
  | (state, none) =>
    match state.offer outlet (Text.utf8Bytes "\n") with
    | (state, some fault) => (state, some fault)
    | (state, none) => (state, state.flushFault? outlet)

def handle (occasion : Occasion) (record : Record) (state : State) (handler : Handler) :
    State :=
  if !record.level.passes handler.level then state
  else
    match handler.outlet with
    | none => state
    | some outlet =>
      match state.writeLine outlet (state.line handler.formatter record) with
      | (state, none) => state
      | (state, some fault) => state.report occasion (.writeFailed record.logger fault)

def deliver (state : State) (occasion : Occasion) (id : Nat) (name : String)
    (record : Record) : State :=
  let registry := state.registry id
  if registry.isEnabled name record.level then
    (registry.audience name).foldl (handle occasion record) state
  else state

end State

end FunctionKit.Logging
