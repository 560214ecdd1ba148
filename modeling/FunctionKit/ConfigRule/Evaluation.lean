import FunctionKit.ConfigRule.Compliance
import FunctionKit.ConfigRule.Request

/-!
# Evaluating a rule

The verdict on an evaluation request. It depends on the request alone; the first check that fails
decides which error is reported.
-/

namespace FunctionKit.ConfigRule

set_option autoImplicit false

structure Subject where
  resourceType : String
  resourceId : String
  orderingTimestamp : String
deriving DecidableEq, Repr

structure Finding where
  subject : Subject
  verdict : Verdict
deriving DecidableEq, Repr

/-- A field of text, empty when it is absent or of another type. -/
def textOrEmpty (fields : Fields) (key : String) : String :=
  ((Dict.get? key fields).bind Json.asString?).getD ""

def Subject.ofItem (item : Fields) : Subject :=
  { resourceType := textOrEmpty item "resourceType"
    resourceId := textOrEmpty item "resourceId"
    orderingTimestamp := textOrEmpty item "configurationItemCaptureTime" }

/-- Scheduled runs are about the account. -/
def Subject.ofAccount (account : String) (document : Fields) : Subject :=
  { resourceType := "AWS::::Account"
    resourceId := account
    orderingTimestamp := textOrEmpty document "notificationCreationTime" }

/-- An item whose status says that the resource was deleted. -/
def isDeleted (item : Fields) : Bool :=
  "ResourceDeleted".toList.isPrefixOf (textOrEmpty item "configurationItemStatus").toList

/-- The verdict on a changed item. The parameters are only read when it is still to be judged. -/
def judgeItem (request : Request) (item : Fields) : Except FieldError Verdict :=
  match request.leftScope with
  | .error fault => .error fault
  | .ok leftScope =>
    if leftScope || isDeleted item then
      .ok ⟨.notApplicable, some "resource is out of scope"⟩
    else
      match request.ruleParameters with
      | .error fault => .error fault
      | .ok parameters => .ok (checkTags item parameters)

def judge (request : Request) : Except FieldError Finding :=
  match request.trigger with
  | .error fault => .error fault
  | .ok trigger =>
    match trigger.subject with
    | .error fault => .error fault
    | .ok fields =>
      match trigger with
      | .change _ =>
        match judgeItem request fields with
        | .error fault => .error fault
        | .ok verdict => .ok ⟨.ofItem fields, verdict⟩
      | .oversizedChange _ =>
        .ok ⟨.ofItem fields,
          ⟨.notApplicable, some "configuration item too large to evaluate inline"⟩⟩
      | .schedule _ =>
        match request.text .accountId with
        | .error fault => .error fault
        | .ok account => .ok ⟨.ofAccount account fields, ⟨.compliant, none⟩⟩

/-- The request with the token and the rule name that every evaluation needs. -/
structure Identified where
  request : Request
  resultToken : String
  ruleName : String

def identify (payload : Json) : Except FieldError Identified :=
  match Request.ofJson payload with
  | .error fault => .error fault
  | .ok request =>
    match request.text .resultToken with
    | .error fault => .error fault
    | .ok resultToken =>
      match request.text .ruleName with
      | .error fault => .error fault
      | .ok ruleName => .ok { request, resultToken, ruleName }

structure Evaluation where
  finding : Finding
  resultToken : String
deriving DecidableEq, Repr

namespace Evaluation

def summary (evaluation : Evaluation) : String :=
  evaluation.finding.subject.resourceType ++ " " ++ evaluation.finding.subject.resourceId ++
    " evaluated as " ++ evaluation.finding.verdict.compliance.title

/-- A timestamp is reported unless it is empty. -/
def orderingTimestamp? (evaluation : Evaluation) : Option String :=
  let stamp := evaluation.finding.subject.orderingTimestamp
  if stamp = "" then none else some stamp

def toFields (evaluation : Evaluation) : Fields :=
  [("annotation", .ofOption evaluation.finding.verdict.annotation),
   ("complianceResourceId", .string evaluation.finding.subject.resourceId),
   ("complianceResourceType", .string evaluation.finding.subject.resourceType),
   ("complianceType", .string evaluation.finding.verdict.compliance.code),
   ("orderingTimestamp", .ofOption evaluation.orderingTimestamp?),
   ("resultToken", .string evaluation.resultToken)]

end Evaluation

def Identified.assess (identified : Identified) : Except FieldError Evaluation :=
  (judge identified.request).map fun finding => ⟨finding, identified.resultToken⟩

/-- The evaluation of a payload, or the first failing check. -/
def assess (payload : Json) : Except FieldError Evaluation :=
  (identify payload).bind Identified.assess

end FunctionKit.ConfigRule
