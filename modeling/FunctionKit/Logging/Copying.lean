import FunctionKit.Logging.Logger
import FunctionKit.Logging.TraceEvent

/-!
# Copying a configuration to other loggers

Loggers of other code are made to write what a service writes: each selected one gets the
service's handler in place of its own, the level, and keeps its records to itself, so nothing is
written twice.
-/

namespace FunctionKit.Logging

set_option autoImplicit false

structure CopyOptions where
  /-- Only these names, if given. -/
  included : Option (List String)
  /-- Never these names. -/
  excluded : Option (List String)
  /-- The level to set, by default that of the source. -/
  level : Option Level
deriving DecidableEq, Repr

/-- The library's own logger and those below it. -/
def isPackageName (name : String) : Bool :=
  name = packageName || isBelow name packageName

namespace CopyOptions

def admits (options : CopyOptions) (name : String) : Bool :=
  (match options.included with
    | some names => names.contains name
    | none => true) &&
  (match options.excluded with
    | some names => !names.contains name
    | none => true)

/-- Whether a logger is reconfigured. The source, its service and everything below the service
keep writing as they do. -/
def selects (options : CopyOptions) (source : Logger) (name : String) : Bool :=
  options.admits name && name ≠ source.name && name ≠ source.service &&
    !isBelow name source.service && !isPackageName name

end CopyOptions

namespace State

def configureFrom (state : State) (id : Nat) (handler : Handler) (level : Level)
    (name : String) : State :=
  (state.modifyEntry id name fun entry =>
    { entry with handlers := [handler], level, propagate := false }).report
    .call (.reconfigured name level)

/-- Copies the handler and level of a source to the selected loggers of a registry. -/
def copyConfiguration (state : State) (id : Nat) (source : Logger) (options : CopyOptions) :
    State :=
  match source.handler? state with
  | none => state.report .call (.nothingToCopy source.name)
  | some handler =>
    let level := options.level.getD (source.level state)
    ((state.registry id).names.filter (options.selects source)).foldl
      (fun current name => current.configureFrom id handler level name) state

end State

end FunctionKit.Logging
