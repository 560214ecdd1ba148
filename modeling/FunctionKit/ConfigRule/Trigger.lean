import FunctionKit.Payload

/-!
# What triggered an evaluation

The document that comes with an evaluation request: a change with the full configuration item, a
change whose item was too large and is only summarised, or a scheduled run. The kind is told by
which keys are there, never by their values.
-/

namespace FunctionKit.ConfigRule

set_option autoImplicit false

inductive Trigger
  | change (document : Payload)
  | oversizedChange (document : Payload)
  | schedule (document : Payload)

namespace Trigger

def itemKey : String := "configurationItem"

def summaryKey : String := "configurationItemSummary"

/-- A full item decides before a summary; without either the run was scheduled. -/
def ofDocument (document : Payload) : Trigger :=
  if document.contains itemKey then .change document
  else if document.contains summaryKey then .oversizedChange document
  else .schedule document

def document : Trigger → Payload
  | .change document => document
  | .oversizedChange document => document
  | .schedule document => document

/-- What is to be evaluated: the item, its summary, or the whole document. -/
def subject : Trigger → Except FieldError Fields
  | .change document => document.object itemKey
  | .oversizedChange document => document.object summaryKey
  | .schedule document => .ok document.fields

def messageType? (trigger : Trigger) : Option String :=
  (trigger.document.get? "messageType").bind Json.asString?

end Trigger

end FunctionKit.ConfigRule
