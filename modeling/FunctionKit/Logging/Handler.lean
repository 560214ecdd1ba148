import FunctionKit.Logging.Level

/-!
# Handlers

A handler sends records to an outlet, in the form that its formatter gives them. Formatters and
streams are named, not held, so a copy of a handler writes to the same stream and shows the same
bound keys.
-/

namespace FunctionKit.Logging

set_option autoImplicit false

inductive Outlet
  | stream (id : Nat)
  | standardOutput
deriving DecidableEq, Repr

/-- How a record becomes a line: in the plain form, or structured with the keys of a formatter of
its own or of the formatter that a service has in a registry. -/
inductive Formatter
  | plain
  | standalone (id : Nat)
  | service (registry : Nat) (name : String)
deriving DecidableEq, Repr

/-- A handler without an outlet drops its records, one without a formatter writes plain lines. -/
structure Handler where
  outlet : Option Outlet
  formatter : Option Formatter
  level : Level
deriving DecidableEq, Repr

end FunctionKit.Logging
