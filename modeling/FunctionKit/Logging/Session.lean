import FunctionKit.ConfigRule.Evaluation
import FunctionKit.Logging.Copying

/-!
# Runs

Everything that can be done to the logging of a process, as data: a run is a list of commands. A
state is reachable if a run leads to it, in a new process or in a warm one. What an evaluation
returns does not depend on the state, so commands have no answers but the state after them.
-/

namespace FunctionKit.Logging

set_option autoImplicit false

open FunctionKit.ConfigRule

/-- Evaluates a request while logging through a logger: the invocation is bound, the event logged,
the rule's name bound as soon as it is known, and the outcome logged if there is one. The event and
the outcome are logged from different places and at different times. -/
def State.evaluate (state : State) (logger : Logger) (eventSite outcomeSite : CallSite)
    (invocation : Invocation) (payload : Json) : State :=
  let received :=
    (state.injectInvocation logger invocation).logIncoming logger eventSite (.ok payload)
  match identify payload with
  | .error _ => received
  | .ok identified =>
    let named := received.appendKeys logger [("config_rule_name", .string identified.ruleName)]
    match identified.assess with
    | .error _ => named
    | .ok evaluation => named.log logger outcomeSite .info evaluation.summary []

inductive Command
  -- on a registry and its entries
  | register (registry : Nat) (name : String)
  | setLevel (registry : Nat) (name : String) (level : Level)
  | setPropagate (registry : Nat) (name : String) (propagate : Bool)
  | setHandlers (registry : Nat) (name : String) (handlers : List Handler)
  | addHandler (registry : Nat) (name : String) (handler : Handler)
  | deliver (registry : Nat) (name : String) (record : Record)
  | dispatch (registry : Nat) (event : TraceEvent) (time : Timestamp)
  -- on what handlers write to and on the journal
  | openStream (stream : Stream)
  | addFormatter (service : String)
  | report (diagnostic : Diagnostic)
  -- on loggers
  | build (blueprint : Blueprint) (draw : Draw)
  | log (logger : Logger) (site : CallSite) (level : Level) (message : String) (extra : Fields)
  | logException (logger : Logger) (site : CallSite) (message : String) (causes : List String)
  | logIncoming (logger : Logger) (site : CallSite) (event : Except Json.WriteError Json)
  | appendKeys (logger : Logger) (pairs : List (String × Json))
  | removeKeys (logger : Logger) (keys : List String)
  | clearKeys (logger : Logger)
  | structureKeys (logger : Logger) (keep : Bool) (pairs : List (String × Json))
  | injectInvocation (logger : Logger) (invocation : Invocation)
  | setServiceLevel (logger : Logger) (level : Level)
  | copyConfiguration (registry : Nat) (source : Logger) (options : CopyOptions)
  | evaluate (logger : Logger) (eventSite outcomeSite : CallSite) (invocation : Invocation)
    (payload : Json)

namespace State

def perform (state : State) : Command → State
  | .register id name => state.register id name
  | .setLevel id name level => state.modifyEntry id name fun entry => { entry with level }
  | .setPropagate id name propagate =>
    state.modifyEntry id name fun entry => { entry with propagate }
  | .setHandlers id name handlers =>
    state.modifyEntry id name fun entry => { entry with handlers }
  | .addHandler id name handler =>
    state.modifyEntry id name fun entry =>
      { entry with handlers := entry.handlers ++ [handler] }
  | .deliver id name record => state.deliver .call id name record
  | .dispatch id event time => state.dispatch id event time
  | .openStream stream => state.openStream stream
  | .addFormatter service => state.addFormatter service
  | .report diagnostic => state.report .call diagnostic
  | .build blueprint draw => state.build blueprint draw
  | .log logger site level message extra => state.log logger site level message extra
  | .logException logger site message causes => state.logException logger site message causes
  | .logIncoming logger site event => state.logIncoming logger site event
  | .appendKeys logger pairs => state.appendKeys logger pairs
  | .removeKeys logger keys => state.removeKeys logger keys
  | .clearKeys logger => state.clearKeys logger
  | .structureKeys logger keep pairs => state.structureKeys logger keep pairs
  | .injectInvocation logger invocation => state.injectInvocation logger invocation
  | .setServiceLevel logger level => state.setServiceLevel logger level
  | .copyConfiguration id source options => state.copyConfiguration id source options
  | .evaluate logger eventSite outcomeSite invocation payload =>
    state.evaluate logger eventSite outcomeSite invocation payload

def run (state : State) (commands : List Command) : State :=
  commands.foldl perform state

def Reachable (state : State) : Prop :=
  ∃ start commands, (start = initial ∨ start = warm) ∧ state = run start commands

end State

end FunctionKit.Logging
