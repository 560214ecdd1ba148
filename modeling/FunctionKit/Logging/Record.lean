import FunctionKit.Json.Printer
import FunctionKit.Logging.Level
import FunctionKit.Logging.Timestamp

/-!
# Records and bound keys

A record is one event on its way to handlers. Keys bound to a service show in every line of that
service: a line is the bound keys, covered by the record's own keys, covered by the four standard
ones.
-/

namespace FunctionKit.Logging

set_option autoImplicit false

structure Record where
  level : Level
  logger : String
  message : String
  location : String
  timestamp : Timestamp
  extra : Fields

namespace Record

/-- The bound keys with the record's keys over them. A null key of the record shows nothing. -/
def overlay (bound extra : Fields) : Fields :=
  extra.foldl
    (fun fields entry => if entry.2.isNull then fields else Dict.insert entry.1 entry.2 fields)
    bound

/-- The object that a line shows. The standard keys cannot be bound to anything else. -/
def toFields (bound : Fields) (record : Record) : Fields :=
  Dict.insert "timestamp" (.string record.timestamp.text) <|
  Dict.insert "message" (.string record.message) <|
  Dict.insert "location" (.string record.location) <|
  Dict.insert "level" (.string record.level.name) <|
  overlay bound record.extra

def structuredLine (bound : Fields) (record : Record) : String :=
  (Json.object (record.toFields bound)).compactText

def plainLine (record : Record) : String :=
  record.level.name ++ ":" ++ record.logger ++ ":" ++ record.message

end Record

/-! ## Bound keys -/

namespace BoundKeys

def serviceKey : String := "service"

/-- A formatter starts with the name of its service. -/
def initial (service : String) : Fields :=
  [(serviceKey, .string service)]

/-- Binds one key; null unbinds it. -/
def bind (bound : Fields) (pair : String × Json) : Fields :=
  if pair.2.isNull then Dict.erase pair.1 bound else Dict.insert pair.1 pair.2 bound

def append (pairs : List (String × Json)) (bound : Fields) : Fields :=
  pairs.foldl bind bound

def remove (keys : List String) (bound : Fields) : Fields :=
  keys.foldl (fun fields key => Dict.erase key fields) bound

/-- Unbinds every key but the service. -/
def clear (bound : Fields) : Fields :=
  bound.filter fun entry => entry.1 = serviceKey

/-- The service a formatter writes for, if that key still holds text. -/
def service? (bound : Fields) : Option String :=
  (Dict.get? serviceKey bound).bind Json.asString?

end BoundKeys

end FunctionKit.Logging
