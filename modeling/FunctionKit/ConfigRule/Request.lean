import FunctionKit.ConfigRule.Trigger

/-!
# Evaluation requests

The payload of an evaluation request has nine fields of text and one flag. It is had from any
object, where fields are checked when they are looked up, or by the typed route, where all ten
are checked at once and null counts as absent. The typed route also takes the fields as a list, in
the order of their keys.
-/

namespace FunctionKit.ConfigRule

set_option autoImplicit false

inductive TextField
  | accountId
  | ruleArn
  | ruleId
  | ruleName
  | executionRoleArn
  | invokingEvent
  | resultToken
  | ruleParameters
  | version
deriving DecidableEq, Repr

namespace TextField

def key : TextField → String
  | .accountId => "accountId"
  | .ruleArn => "configRuleArn"
  | .ruleId => "configRuleId"
  | .ruleName => "configRuleName"
  | .executionRoleArn => "executionRoleArn"
  | .invokingEvent => "invokingEvent"
  | .resultToken => "resultToken"
  | .ruleParameters => "ruleParameters"
  | .version => "version"

def all : List TextField :=
  [.accountId, .ruleArn, .ruleId, .ruleName, .executionRoleArn, .invokingEvent, .resultToken,
   .ruleParameters, .version]

end TextField

def leftScopeKey : String := "eventLeftScope"

/-- The keys of all ten fields, in ascending order. -/
def requestKeys : List String :=
  [TextField.accountId, .ruleArn, .ruleId, .ruleName].map TextField.key ++
    leftScopeKey ::
      [TextField.executionRoleArn, .invokingEvent, .resultToken, .ruleParameters, .version].map
        TextField.key

structure Request where
  payload : Payload

namespace Request

def ofJson (value : Json) : Except FieldError Request :=
  (Payload.ofJson value).map Request.mk

def ofFields (fields : Fields) : Request :=
  ⟨⟨fields⟩⟩

def text (request : Request) (field : TextField) : Except FieldError String :=
  request.payload.text field.key

def leftScope (request : Request) : Except FieldError Bool :=
  request.payload.flag leftScopeKey

/-- The trigger, read anew from its document on every call. -/
def trigger (request : Request) : Except FieldError Trigger :=
  match request.payload.document TextField.invokingEvent.key Json.read with
  | .error fault => .error fault
  | .ok (.object fields) => .ok (Trigger.ofDocument ⟨fields⟩)
  | .ok _ => .error (.wrongType TextField.invokingEvent.key .document)

def ruleParameters (request : Request) : Except FieldError (Dict String) :=
  request.payload.document TextField.ruleParameters.key Json.readStrings

end Request

/-! ## The typed route -/

structure TypedRequest where
  text : TextField → Option String
  leftScope : Bool

namespace TypedRequest

/-- Null or text, or nothing at all. -/
def isOptionalText : Option Json → Bool
  | none => true
  | some .null => true
  | some (.string _) => true
  | _ => false

/-- A typed request, unless a text field is neither text nor null, or the flag is no flag. Other
fields are passed over. -/
def ofFields? (fields : Fields) : Option TypedRequest :=
  if TextField.all.all fun field => isOptionalText (Dict.get? field.key fields) then
    match Dict.get? leftScopeKey fields with
    | some (.bool leftScope) =>
      some { text := fun field => (Dict.get? field.key fields).bind Json.asString?, leftScope }
    | _ => none
  else none

/-- The fields that a list holds, each at the place of its key. A list may end early, but it holds
nothing beyond the last field. -/
def listedFields? (items : List Json) : Option Fields :=
  if items.length ≤ requestKeys.length then some (Dict.ofPairs (requestKeys.zip items)) else none

/-- A typed request from an object, or from the list of its fields. -/
def ofJson? : Json → Option TypedRequest
  | .object fields => ofFields? fields
  | .array items => (listedFields? items).bind ofFields?
  | _ => none

def members (request : TypedRequest) : List (String × Json) :=
  (leftScopeKey, .bool request.leftScope) ::
    TextField.all.map fun field => (field.key, .ofOption (request.text field))

/-- A typed request is written with all its fields. A text that it does not have is null. -/
def written (request : TypedRequest) : Fields :=
  Dict.ofPairs request.members

/-- What is written and not null. -/
def toFields (request : TypedRequest) : Fields :=
  request.written.filter fun entry => !entry.2.isNull

def toRequest (request : TypedRequest) : Request :=
  .ofFields request.toFields

end TypedRequest

end FunctionKit.ConfigRule
