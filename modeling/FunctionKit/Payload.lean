import FunctionKit.Json.Reader

/-!
# Payloads

A payload is the object of fields that a function is invoked with. Fields are looked up by name
and type; a document inside a field is text that is read on every look-up.
-/

namespace FunctionKit

set_option autoImplicit false

inductive FieldType
  | text
  | flag
  | object
  | document
deriving DecidableEq, Repr

def FieldType.phrase : FieldType → String
  | .text => "a string"
  | .flag => "a boolean"
  | .object => "an object"
  | .document => "a JSON object"

inductive FieldError
  | missing (key : String)
  | wrongType (key : String) (expected : FieldType)
  | unreadable (key : String) (fault : Json.ReadError)
deriving DecidableEq, Repr

def FieldError.message : FieldError → String
  | .missing key => "missing key '" ++ key ++ "'"
  | .wrongType key expected => "value at '" ++ key ++ "' is not " ++ expected.phrase
  | .unreadable key _ => "malformed payload at '" ++ key ++ "'"

structure Payload where
  fields : Fields

namespace Payload

/-- The name that stands for a payload as a whole in errors. -/
def wholeKey : String := "$"

def ofJson : Json → Except FieldError Payload
  | .object fields => .ok ⟨fields⟩
  | _ => .error (.wrongType wholeKey .object)

def get? (payload : Payload) (key : String) : Option Json :=
  Dict.get? key payload.fields

def contains (payload : Payload) (key : String) : Bool :=
  Dict.contains key payload.fields

def same (first second : Payload) : Bool :=
  Json.sameMembers first.fields second.fields

/-- A field that has to be there and to be of one type. -/
def field {α : Type} (payload : Payload) (key : String) (expected : FieldType)
    (view : Json → Option α) : Except FieldError α :=
  match payload.get? key with
  | none => .error (.missing key)
  | some value =>
    match view value with
    | none => .error (.wrongType key expected)
    | some held => .ok held

def text (payload : Payload) (key : String) : Except FieldError String :=
  payload.field key .text Json.asString?

def flag (payload : Payload) (key : String) : Except FieldError Bool :=
  payload.field key .flag Json.asBool?

def object (payload : Payload) (key : String) : Except FieldError Fields :=
  payload.field key .object Json.asObject?

/-- A field whose text is read as a document. -/
def document {α : Type} (payload : Payload) (key : String)
    (reader : String → Except Json.ReadError α) : Except FieldError α :=
  match payload.text key with
  | .error fault => .error fault
  | .ok source =>
    match reader source with
    | .error fault => .error (.unreadable key fault)
    | .ok value => .ok value

end Payload

end FunctionKit
