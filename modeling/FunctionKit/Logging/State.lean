import FunctionKit.Logging.Diagnostic
import FunctionKit.Logging.Registry

/-!
# The state of logging

All that logging keeps in one process between two calls: the registries, the formatters that
belong to no service, the streams, whether the process has yet to serve its first invocation, and
the journal of everything written and reported. What a stream holds and what a listener has heard
is read off the journal.
-/

namespace FunctionKit.Logging

set_option autoImplicit false

/-- How a stream takes bytes: all of them; a number in total and then none; or all of them with
every flush failing. -/
inductive Stream
  | reliable
  | limited (limit : Nat) (fault : String)
  | unflushable (fault : String)
deriving DecidableEq, Repr

inductive Emission
  | written (outlet : Outlet) (bytes : List UInt8)
  | reported (report : Report)
deriving DecidableEq

def Emission.bytesTo (outlet : Outlet) : Emission → List UInt8
  | .written target bytes => if target = outlet then bytes else []
  | .reported _ => []

def Emission.report? : Emission → Option Report
  | .written _ _ => none
  | .reported report => some report

structure State where
  /-- The registries that were used, the latest state of each first. -/
  registries : List (Nat × Registry)
  /-- The bound keys of the formatters that belong to no service. -/
  formatters : List Fields
  streams : List Stream
  /-- Whether no invocation was served yet. -/
  coldStart : Bool
  /-- The earliest emission comes first. -/
  journal : List Emission

/-- The registry that loggers are built in when no other is given. -/
def sharedRegistry : Nat := 0

namespace State

def initial : State :=
  { registries := []
    formatters := []
    streams := []
    coldStart := true
    journal := [] }

/-- The state of a process that has served invocations before, with nothing left of them. -/
def warm : State :=
  { initial with coldStart := false }

/-! ## Registries -/

/-- Every registry is there from the start, with nothing but its root. -/
def registry (state : State) (id : Nat) : Registry :=
  (state.registries.lookup id).getD .empty

def setRegistry (state : State) (id : Nat) (registry : Registry) : State :=
  { state with
    registries := (id, registry) :: state.registries.filter fun entry => entry.1 ≠ id }

theorem registry_setRegistry (state : State) (id other : Nat) (registry : Registry) :
    (state.setRegistry id registry).registry other =
      if id = other then registry else state.registry other := by
  by_cases same : id = other
  · subst same
    simp [setRegistry, State.registry]
  · have apart : (other == id) = false := by simpa using Ne.symm same
    simp only [setRegistry, State.registry, List.lookup_cons, apart, if_neg same]
    congr 1
    induction state.registries with
    | nil => rfl
    | cons entry rest tail =>
      obtain ⟨key, held⟩ := entry
      by_cases gone : key = id
      · simpa [gone, List.lookup_cons, apart] using tail
      · by_cases hit : other = key
        · simp [gone, hit]
        · have missed : (other == key) = false := by simpa using hit
          simpa [gone, List.lookup_cons, missed] using tail

def register (state : State) (id : Nat) (name : String) : State :=
  state.setRegistry id ((state.registry id).register name)

def modifyEntry (state : State) (id : Nat) (name : String) (change : Entry → Entry) :
    State :=
  state.setRegistry id ((state.registry id).modify name change)

/-! ## Formatters -/

/-- Adds a formatter of its own. It is known by the number of formatters before it. -/
def addFormatter (state : State) (service : String) : State :=
  { state with formatters := state.formatters ++ [BoundKeys.initial service] }

/-- The keys bound on a formatter. Plain lines show none. -/
def boundKeys (state : State) : Formatter → Fields
  | .plain => []
  | .standalone id => state.formatters[id]?.getD []
  | .service id name => (((state.registry id).get? name).map Entry.boundKeys).getD []

def modifyKeys (state : State) (id : Nat) (service : String) (change : Fields → Fields) :
    State :=
  state.modifyEntry id service fun entry => { entry with boundKeys := change entry.boundKeys }

def line (state : State) (formatter : Option Formatter) (record : Record) : String :=
  match formatter with
  | none | some .plain => record.plainLine
  | some structured => record.structuredLine (state.boundKeys structured)

/-! ## The journal -/

/-- Opens a stream. It is known by the number of streams before it. -/
def openStream (state : State) (stream : Stream) : State :=
  { state with streams := state.streams ++ [stream] }

def emit (state : State) (emission : Emission) : State :=
  { state with journal := state.journal ++ [emission] }

def report (state : State) (occasion : Occasion) (diagnostic : Diagnostic) : State :=
  state.emit (.reported { occasion, diagnostic })

/-- The reports that were made, the earliest first. -/
def reports (state : State) : List Report :=
  state.journal.filterMap Emission.report?

/-- The reports that a listener has heard. -/
def heard (state : State) (listener : Listener) : List Report :=
  listener.heardAfter [] state.reports

def contents (state : State) (outlet : Outlet) : List UInt8 :=
  state.journal.flatMap (Emission.bytesTo outlet)

theorem contents_emit (state : State) (emission : Emission) (outlet : Outlet) :
    (state.emit emission).contents outlet =
      state.contents outlet ++ emission.bytesTo outlet := by
  simp [emit, contents]

def stream? (state : State) : Outlet → Option Stream
  | .stream id => state.streams[id]?
  | .standardOutput => none

end State

end FunctionKit.Logging
