import FunctionKit.Logging.State
import FunctionKit.Text.Quoted

/-!
# Inspecting entries and handlers

One-line texts that show the parts of an entry or a handler to a developer, with their names.
-/

namespace FunctionKit.Logging

set_option autoImplicit false

open FunctionKit.Text

def bracedParts (name : String) (parts : List (String × String)) : String :=
  name ++ " \x7b " ++
    String.intercalate ", " (parts.map fun part => part.1 ++ ": " ++ part.2) ++ " \x7d"

def Level.shown : Level → String
  | .notSet => "NotSet"
  | .debug => "Debug"
  | .info => "Info"
  | .warning => "Warning"
  | .error => "Error"
  | .critical => "Critical"

def flagShown (flag : Bool) : String :=
  if flag then "true" else "false"

mutual

def valueShown : Json → String
  | .null => "Null"
  | .bool value => "Bool(" ++ flagShown value ++ ")"
  | .number value => "Number(" ++ String.ofList (Json.renderNumber value) ++ ")"
  | .string value => "String(" ++ quoted value ++ ")"
  | .array items => "Array [" ++ String.intercalate ", " (itemsShown items) ++ "]"
  | .object members =>
    "Object \x7b" ++ String.intercalate ", " (membersShown members) ++ "\x7d"

def itemsShown : List Json → List String
  | [] => []
  | item :: rest => valueShown item :: itemsShown rest

def membersShown : List (String × Json) → List String
  | [] => []
  | (key, value) :: rest => (quoted key ++ ": " ++ valueShown value) :: membersShown rest

end

def keysShown (bound : Fields) : String :=
  "\x7b" ++ String.intercalate ", " (membersShown bound) ++ "\x7d"

def outletKind : Option Outlet → String
  | some (.stream _) => "stream"
  | some .standardOutput => "stdout"
  | none => "null"

namespace State

def formatterShown (state : State) : Option Formatter → String
  | none => "None"
  | some .plain => "Some(PlainFormatter)"
  | some structured =>
    "Some(" ++
      bracedParts "PowertoolsFormatter"
        [("keys", bracedParts "RwLock" [("data", keysShown (state.boundKeys structured))])] ++
      ")"

def handlerShown (state : State) (handler : Handler) : String :=
  bracedParts "Handler"
    [("sink", quoted (outletKind handler.outlet)),
     ("formatter", state.formatterShown handler.formatter),
     ("level", handler.level.shown)]

end State

def Entry.shown (name : String) (entry : Entry) : String :=
  bracedParts "RegisteredLogger"
    [("name", quoted name),
     ("level", entry.level.shown),
     ("propagate", flagShown entry.propagate),
     ("handlers", String.ofList (digits entry.handlers.length))]

end FunctionKit.Logging
