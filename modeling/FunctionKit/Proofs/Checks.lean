import FunctionKit.ConfigRule.Evaluation

/-!
# The checks of an evaluation

An evaluation makes its checks in a fixed order, and the first one that fails tells the error. Which
checks come last depends on what the request is about: a change that is still to be judged, any
other change, or a scheduled run.
-/

namespace FunctionKit.ConfigRule

set_option autoImplicit false

/-! ## Fields of a payload -/

def fieldOf (payload : Json) (key : String) : Option Json :=
  payload.asObject?.bind (Dict.get? key)

def textOf (payload : Json) (key : String) : Option String :=
  (fieldOf payload key).bind Json.asString?

def flagOf (payload : Json) (key : String) : Option Bool :=
  (fieldOf payload key).bind Json.asBool?

def objectAt (fields : Fields) (key : String) : Option Fields :=
  (Dict.get? key fields).bind Json.asObject?

/-- The object that the text of the invoking event is read as. -/
def documentOf (payload : Json) : Option Fields :=
  (textOf payload "invokingEvent").bind fun source => (Json.read source).toOption.bind Json.asObject?

inductive Kind
  | change
  | oversized
  | periodic
deriving DecidableEq, Repr

def kindOf (document : Fields) : Kind :=
  if Dict.contains "configurationItem" document then .change
  else if Dict.contains "configurationItemSummary" document then .oversized
  else .periodic

/-- What is evaluated: the item of a change, the summary of an oversized one, else the document. -/
def selectedOf (document : Fields) : Option Fields :=
  match kindOf document with
  | .change => objectAt document "configurationItem"
  | .oversized => objectAt document "configurationItemSummary"
  | .periodic => some document

def Deleted (item : Fields) : Prop :=
  ∃ status, Dict.get? "configurationItemStatus" item = some (.string status) ∧
    "ResourceDeleted".toList <+: status.toList

/-! ## Checks -/

inductive Check
  | payload
  | text (key : String)
  | invokingEvent
  | subject
  | leftScope
  | ruleParameters
deriving DecidableEq, Repr

inductive FieldFails {α : Type} (payload : Json) (key : String) (expected : FieldType)
    (view : Json → Option α) : FieldError → Prop
  | missing (absent : fieldOf payload key = none) :
      FieldFails payload key expected view (.missing key)
  | wrongType {value : Json} (found : fieldOf payload key = some value)
      (unfit : view value = none) : FieldFails payload key expected view (.wrongType key expected)

inductive DocumentFails {α : Type} (payload : Json) (key : String)
    (reader : String → Except Json.ReadError α) : FieldError → Prop
  | noText {fault : FieldError} (fails : FieldFails payload key .text Json.asString? fault) :
      DocumentFails payload key reader fault
  | unreadable {source : String} {fault : Json.ReadError} (found : textOf payload key = some source)
      (refused : reader source = .error fault) :
      DocumentFails payload key reader (.unreadable key fault)

/-- A check of a payload fails with an error, whatever comes of the other checks. -/
inductive Fails (payload : Json) : Check → FieldError → Prop
  | payload (other : payload.asObject? = none) : Fails payload .payload (.wrongType "$" .object)
  | text {key : String} {fault : FieldError}
      (fails : FieldFails payload key .text Json.asString? fault) : Fails payload (.text key) fault
  | invokingEvent {fault : FieldError}
      (fails : DocumentFails payload "invokingEvent" Json.read fault) :
      Fails payload .invokingEvent fault
  | noObject {source : String} {value : Json} (found : textOf payload "invokingEvent" = some source)
      (read : Json.read source = .ok value) (other : value.asObject? = none) :
      Fails payload .invokingEvent (.wrongType "invokingEvent" .document)
  | item {document : Fields} (read : documentOf payload = some document)
      (change : kindOf document = .change) (other : objectAt document "configurationItem" = none) :
      Fails payload .subject (.wrongType "configurationItem" .object)
  | summary {document : Fields} (read : documentOf payload = some document)
      (oversized : kindOf document = .oversized)
      (other : objectAt document "configurationItemSummary" = none) :
      Fails payload .subject (.wrongType "configurationItemSummary" .object)
  | leftScope {fault : FieldError}
      (fails : FieldFails payload "eventLeftScope" .flag Json.asBool? fault) :
      Fails payload .leftScope fault
  | ruleParameters {fault : FieldError}
      (fails : DocumentFails payload "ruleParameters" Json.readStrings fault) :
      Fails payload .ruleParameters fault

/-- The first of some checks that fails does so with an error. -/
inductive FirstFails (payload : Json) : List Check → FieldError → Prop
  | here {check : Check} {rest : List Check} {fault : FieldError}
      (fails : Fails payload check fault) : FirstFails payload (check :: rest) fault
  | further {check : Check} {rest : List Check} {fault : FieldError}
      (passes : ∀ other, ¬Fails payload check other) (later : FirstFails payload rest fault) :
      FirstFails payload (check :: rest) fault

theorem is_deleted_iff (item : Fields) : isDeleted item = true ↔ Deleted item := by
  unfold isDeleted textOrEmpty Deleted
  rw [List.isPrefixOf_iff_prefix]
  cases found : Dict.get? "configurationItemStatus" item with
  | none => simp
  | some value => cases value <;> simp [Json.asString?]

instance : DecidablePred Deleted :=
  fun item => decidable_of_iff (isDeleted item = true) (is_deleted_iff item)

/-- The checks after the nested item was found. -/
def lateChecks (payload : Json) (document item : Fields) : List Check :=
  match kindOf document with
  | .change =>
    .leftScope ::
      if flagOf payload "eventLeftScope" = some false ∧ ¬Deleted item then [.ruleParameters] else []
  | .oversized => []
  | .periodic => [.text "accountId"]

/-- The checks of a payload in their order. The last ones are only known once the nested item is. -/
def checksOf (payload : Json) : List Check :=
  [.payload, .text "resultToken", .text "configRuleName", .invokingEvent, .subject] ++
    match documentOf payload with
    | none => []
    | some document =>
      match selectedOf document with
      | none => []
      | some item => lateChecks payload document item

/-! ## What single look-ups answer -/

section LookUps

variable {α : Type} {fields : Fields} {key : String} {expected : FieldType} {fault : FieldError}

theorem not_ok_of_error {result : Except FieldError α} {content : α}
    (failed : result = .error fault) : result ≠ .ok content := by
  rw [failed]
  rintro ⟨⟩

theorem field_error_iff {view : Json → Option α} :
    (Payload.mk fields).field key expected view = .error fault ↔
      FieldFails (.object fields) key expected view fault := by
  have found : fieldOf (.object fields) key = Dict.get? key fields := rfl
  unfold Payload.field Payload.get?
  rw [← found]
  cases held : fieldOf (.object fields) key with
  | none =>
      constructor
      · rintro ⟨⟩
        exact .missing held
      · rintro (_ | ⟨found, _⟩)
        · rfl
        · rw [held] at found
          cases found
  | some value =>
      cases fit : view value with
      | none =>
          simp only [fit]
          constructor
          · rintro ⟨⟩
            exact .wrongType held fit
          · rintro (absent | _)
            · rw [held] at absent
              cases absent
            · rfl
      | some content =>
          simp only [fit, reduceCtorEq, false_iff]
          rintro (absent | ⟨found, unfit⟩)
          · rw [held] at absent
            cases absent
          · rw [held, Option.some.injEq] at found
            rw [← found, fit] at unfit
            cases unfit

theorem field_ok_iff {view : Json → Option α} {content : α} :
    (Payload.mk fields).field key expected view = .ok content ↔
      (fieldOf (.object fields) key).bind view = some content := by
  have found : fieldOf (.object fields) key = Dict.get? key fields := rfl
  unfold Payload.field Payload.get?
  rw [← found]
  cases fieldOf (.object fields) key with
  | none => simp
  | some value =>
      rw [Option.bind_some]
      cases fit : view value <;> simp [fit]

theorem document_error_iff {reader : String → Except Json.ReadError α} :
    (Payload.mk fields).document key reader = .error fault ↔
      DocumentFails (.object fields) key reader fault := by
  unfold Payload.document
  cases held : (Payload.mk fields).text key with
  | error first =>
      constructor
      · rintro ⟨⟩
        exact .noText (field_error_iff.mp held)
      · rintro (fails | ⟨found, _⟩)
        · have text : (Payload.mk fields).text key = .error fault := field_error_iff.mpr fails
          rw [held] at text
          cases text
          rfl
        · exact absurd (field_ok_iff.mpr found) (not_ok_of_error held)
  | ok source =>
      have found : textOf (.object fields) key = some source := field_ok_iff.mp held
      have noFault : ∀ other, ¬FieldFails (.object fields) key .text Json.asString? other := by
        intro other fails
        exact not_ok_of_error (field_error_iff.mpr fails) held
      cases read : reader source with
      | error refusal =>
          simp only [read]
          constructor
          · rintro ⟨⟩
            exact .unreadable found read
          · rintro (fails | ⟨other, refused⟩)
            · exact absurd fails (noFault _)
            · rw [found, Option.some.injEq] at other
              rw [← other, read] at refused
              cases refused
              rfl
      | ok content =>
          simp only [read, reduceCtorEq, false_iff]
          rintro (fails | ⟨other, refused⟩)
          · exact noFault _ fails
          · rw [found, Option.some.injEq] at other
            rw [← other, read] at refused
            cases refused

theorem document_ok_iff {reader : String → Except Json.ReadError α} {content : α} :
    (Payload.mk fields).document key reader = .ok content ↔
      ∃ source, textOf (.object fields) key = some source ∧ reader source = .ok content := by
  unfold Payload.document
  cases held : (Payload.mk fields).text key with
  | error first =>
      simp only [reduceCtorEq, false_iff, not_exists, not_and]
      intro source found
      exact absurd (field_ok_iff.mpr found) (not_ok_of_error held)
  | ok source =>
      have found : textOf (.object fields) key = some source := field_ok_iff.mp held
      simp only [found, Option.some.injEq, exists_eq_left']
      cases reader source <;> simp

end LookUps

/-! ## The document of the event -/

def eventDocument (request : Request) : Except FieldError Fields :=
  match request.payload.document "invokingEvent" Json.read with
  | .error fault => .error fault
  | .ok value =>
    match value.asObject? with
    | none => .error (.wrongType "invokingEvent" .document)
    | some document => .ok document

theorem trigger_eq (request : Request) :
    request.trigger = (eventDocument request).map fun document => Trigger.ofDocument ⟨document⟩ := by
  have key : TextField.invokingEvent.key = "invokingEvent" := rfl
  unfold Request.trigger eventDocument
  rw [key]
  cases request.payload.document "invokingEvent" Json.read with
  | error fault => rfl
  | ok value => cases value <;> rfl

section EventDocument

variable {fields : Fields}

theorem event_document_error_iff {fault : FieldError} :
    eventDocument (.ofFields fields) = .error fault ↔
      Fails (.object fields) .invokingEvent fault := by
  unfold eventDocument Request.ofFields
  cases held : (Payload.mk fields).document "invokingEvent" Json.read with
  | error first =>
      constructor
      · rintro ⟨⟩
        exact .invokingEvent (document_error_iff.mp held)
      · intro check
        cases check with
        | invokingEvent fails =>
            have document := document_error_iff.mpr fails
            rw [held] at document
            cases document
            rfl
        | noObject found read _ =>
            exact absurd (document_ok_iff.mpr ⟨_, found, read⟩) (not_ok_of_error held)
  | ok value =>
      obtain ⟨source, found, read⟩ := document_ok_iff.mp held
      have noFault : ¬DocumentFails (.object fields) "invokingEvent" Json.read fault := by
        intro fails
        exact not_ok_of_error (document_error_iff.mpr fails) held
      have sameValue : ∀ {text : String} {other : Json},
          textOf (.object fields) "invokingEvent" = some text → Json.read text = .ok other →
          other = value := by
        intro text other otherFound otherRead
        rw [found, Option.some.injEq] at otherFound
        rw [← otherFound, read, Except.ok.injEq] at otherRead
        exact otherRead.symm
      cases object : value.asObject? with
      | none =>
          simp only [object]
          constructor
          · rintro ⟨⟩
            exact .noObject found read object
          · intro check
            cases check with
            | invokingEvent fails => exact absurd fails noFault
            | noObject _ _ _ => rfl
      | some document =>
          simp only [object, reduceCtorEq, false_iff]
          intro check
          cases check with
          | invokingEvent fails => exact noFault fails
          | noObject otherFound otherRead noObject =>
              rw [sameValue otherFound otherRead, object] at noObject
              cases noObject

theorem event_document_ok_iff {document : Fields} :
    eventDocument (.ofFields fields) = .ok document ↔
      documentOf (.object fields) = some document := by
  unfold eventDocument Request.ofFields documentOf
  cases held : (Payload.mk fields).document "invokingEvent" Json.read with
  | error first =>
      have refused : ∀ source value, textOf (.object fields) "invokingEvent" = some source →
          Json.read source ≠ .ok value := by
        intro source value found read
        exact not_ok_of_error held (document_ok_iff.mpr ⟨source, found, read⟩)
      cases found : textOf (.object fields) "invokingEvent" with
      | none => simp
      | some source =>
          cases read : Json.read source with
          | error fault => simp [read, Except.toOption]
          | ok value => exact absurd read (refused source value found)
  | ok value =>
      obtain ⟨source, found, read⟩ := document_ok_iff.mp held
      rw [found, Option.bind_some, read]
      cases object : value.asObject? <;> simp [Except.toOption, object]

end EventDocument

/-! ## The selected item -/

section Selection

variable {payload : Json} {document item : Fields}

theorem trigger_of_kind (document : Fields) :
    Trigger.ofDocument ⟨document⟩ =
      match kindOf document with
      | .change => .change ⟨document⟩
      | .oversized => .oversizedChange ⟨document⟩
      | .periodic => .schedule ⟨document⟩ := by
  unfold Trigger.ofDocument kindOf Payload.contains Trigger.itemKey Trigger.summaryKey
  split
  · rfl
  · split <;> rfl

/-- A key that decided the kind is there, so only the type of its value can be wrong. -/
theorem object_error_iff {key : String} (present : Dict.contains key document = true)
    {fault : FieldError} :
    (Payload.mk document).object key = .error fault ↔
      objectAt document key = none ∧ fault = .wrongType key .object := by
  unfold Dict.contains at present
  unfold Payload.object Payload.field Payload.get? objectAt
  cases found : Dict.get? key document with
  | none =>
      rw [found] at present
      cases present
  | some value =>
      rw [Option.bind_some]
      cases object : value.asObject? <;> simp [object, eq_comm]

theorem subject_ok_iff :
    (Trigger.ofDocument ⟨document⟩).subject = .ok item ↔ selectedOf document = some item := by
  rw [trigger_of_kind]
  unfold selectedOf
  cases kindOf document with
  | change => exact field_ok_iff
  | oversized => exact field_ok_iff
  | periodic => simp [Trigger.subject]

theorem subject_error_iff (read : documentOf payload = some document) {fault : FieldError} :
    (Trigger.ofDocument ⟨document⟩).subject = .error fault ↔ Fails payload .subject fault := by
  -- Failures speak of some document that was read, and there is only this one.
  have sameDocument : ∀ {other : Fields}, documentOf payload = some other → other = document := by
    intro other otherRead
    rw [read, Option.some.injEq] at otherRead
    exact otherRead.symm
  rw [trigger_of_kind]
  cases kind : kindOf document with
  | change =>
      have present : Dict.contains "configurationItem" document = true := by
        unfold kindOf at kind
        split at kind
        · assumption
        · split at kind <;> cases kind
      simp only [Trigger.subject, Trigger.itemKey]
      rw [object_error_iff present]
      constructor
      · rintro ⟨other, rfl⟩
        exact .item read kind other
      · intro check
        cases check with
        | item otherRead _ other =>
            rw [sameDocument otherRead] at other
            exact ⟨other, rfl⟩
        | summary otherRead otherKind _ =>
            rw [sameDocument otherRead, kind] at otherKind
            cases otherKind
  | oversized =>
      have present : Dict.contains "configurationItemSummary" document = true := by
        unfold kindOf at kind
        split at kind
        · cases kind
        · split at kind
          · assumption
          · cases kind
      simp only [Trigger.subject, Trigger.summaryKey]
      rw [object_error_iff present]
      constructor
      · rintro ⟨other, rfl⟩
        exact .summary read kind other
      · intro check
        cases check with
        | item otherRead otherKind _ =>
            rw [sameDocument otherRead, kind] at otherKind
            cases otherKind
        | summary otherRead _ other =>
            rw [sameDocument otherRead] at other
            exact ⟨other, rfl⟩
  | periodic =>
      simp only [Trigger.subject, reduceCtorEq, false_iff]
      intro check
      cases check with
      | item otherRead otherKind _ =>
          rw [sameDocument otherRead, kind] at otherKind
          cases otherKind
      | summary otherRead otherKind _ =>
          rw [sameDocument otherRead, kind] at otherKind
          cases otherKind

end Selection

/-! ## The order of the checks -/

section Order

variable {α β : Type} {payload : Json} {check : Check} {rest : List Check} {fault : FieldError}

theorem exists_failing (first : FirstFails payload rest fault) :
    ∃ check ∈ rest, ∃ other, Fails payload check other := by
  induction first with
  | here fails => exact ⟨_, List.mem_cons_self, _, fails⟩
  | further _ _ later =>
      obtain ⟨check, member, fails⟩ := later
      exact ⟨check, List.mem_cons_of_mem _ member, fails⟩

theorem exists_first (member : check ∈ rest) (fails : Fails payload check fault) :
    ∃ other, FirstFails payload rest other := by
  induction rest with
  | nil => cases member
  | cons head tail later =>
      by_cases headFails : ∃ other, Fails payload head other
      · obtain ⟨other, headFails⟩ := headFails
        exact ⟨other, .here headFails⟩
      · obtain rfl | member := List.mem_cons.mp member
        · exact absurd ⟨fault, fails⟩ headFails
        · obtain ⟨other, first⟩ := later member
          exact ⟨other, .further (not_exists.mp headFails) first⟩

/-- One check before the others: it fails with its own error, else the others tell. -/
theorem bind_error_iff {result : Except FieldError α} {next : α → Except FieldError β}
    (now : ∀ {other}, result = .error other ↔ Fails payload check other)
    (later : ∀ content, result = .ok content →
      (next content = .error fault ↔ FirstFails payload rest fault)) :
    result.bind next = .error fault ↔ FirstFails payload (check :: rest) fault := by
  cases answer : result with
  | error first =>
      constructor
      · rintro ⟨⟩
        exact .here (now.mp answer)
      · rintro (fails | ⟨passes, _⟩)
        · have other := now.mpr fails
          rw [answer] at other
          cases other
          rfl
        · exact absurd (now.mp answer) (passes first)
  | ok content =>
      have passes : ∀ other, ¬Fails payload check other := by
        intro other fails
        exact not_ok_of_error (now.mpr fails) answer
      constructor
      · intro failed
        exact .further passes ((later content answer).mp failed)
      · rintro (fails | ⟨_, first⟩)
        · exact absurd fails (passes fault)
        · exact (later content answer).mpr first

theorem not_first_of_none : ¬FirstFails payload [] fault := by
  rintro ⟨⟩

end Order

/-! ## An evaluation as its checks -/

/-- What is left to do once the nested item is known. -/
def conclude (request : Request) (document item : Fields) : Except FieldError Finding :=
  match kindOf document with
  | .change => (judgeItem request item).map fun verdict => ⟨.ofItem item, verdict⟩
  | .oversized =>
    .ok ⟨.ofItem item, ⟨.notApplicable, some "configuration item too large to evaluate inline"⟩⟩
  | .periodic =>
    (request.text .accountId).map fun account =>
      ⟨.ofAccount account item, ⟨.compliant, none⟩⟩

theorem judge_eq (request : Request) :
    judge request =
      (eventDocument request).bind fun document =>
        (Trigger.ofDocument ⟨document⟩).subject.bind (conclude request document) := by
  unfold judge
  rw [trigger_eq]
  cases eventDocument request with
  | error fault => rfl
  | ok document =>
      simp only [Except.map, Except.bind]
      cases answer : (Trigger.ofDocument ⟨document⟩).subject with
      | error fault => rfl
      | ok item =>
          simp only [conclude]
          rw [trigger_of_kind]
          cases kindOf document with
          | change => cases judgeItem request item <;> rfl
          | oversized => rfl
          | periodic => cases request.text .accountId <;> rfl

theorem judge_item_eq (request : Request) (item : Fields) :
    judgeItem request item =
      request.leftScope.bind fun leftScope =>
        if leftScope || isDeleted item then
          .ok ⟨.notApplicable, some "resource is out of scope"⟩
        else request.ruleParameters.map (checkTags item) := by
  unfold judgeItem
  cases request.leftScope with
  | error fault => rfl
  | ok leftScope =>
      simp only [Except.bind]
      split
      · rfl
      · cases request.ruleParameters <;> rfl

theorem assess_eq (payload : Json) :
    assess payload =
      (Request.ofJson payload).bind fun request =>
        (request.text .resultToken).bind fun resultToken =>
          (request.text .ruleName).bind fun _ =>
            (eventDocument request).bind fun document =>
              (Trigger.ofDocument ⟨document⟩).subject.bind fun item =>
                (conclude request document item).map fun finding => ⟨finding, resultToken⟩ := by
  unfold assess identify
  cases Request.ofJson payload with
  | error fault => rfl
  | ok request =>
      simp only [Except.bind]
      cases request.text .resultToken with
      | error fault => rfl
      | ok resultToken =>
          cases request.text .ruleName with
          | error fault => rfl
          | ok ruleName =>
              simp only [Identified.assess]
              rw [judge_eq]
              cases eventDocument request with
              | error fault => rfl
              | ok document =>
                  simp only [Except.bind]
                  cases (Trigger.ofDocument ⟨document⟩).subject <;> rfl

theorem map_error_iff {α β : Type} {result : Except FieldError α} {change : α → β}
    {fault : FieldError} : result.map change = .error fault ↔ result = .error fault := by
  cases result <;> simp [Except.map]

theorem payload_error_iff {payload : Json} {fault : FieldError} :
    Request.ofJson payload = .error fault ↔ Fails payload .payload fault := by
  constructor
  · intro failed
    cases payload with
    | object fields => cases failed
    | _ =>
      cases failed
      exact .payload rfl
  · intro check
    cases check with
    | payload other =>
      cases payload with
      | object fields => cases other
      | _ => rfl

theorem eq_of_request {payload : Json} {request : Request}
    (accepted : Request.ofJson payload = .ok request) :
    ∃ fields, payload = .object fields ∧ request = .ofFields fields := by
  cases payload with
  | object fields =>
      cases accepted
      exact ⟨fields, rfl, rfl⟩
  | _ => cases accepted

section Steps

variable {fields document item : Fields} {fault : FieldError}

theorem text_error_iff {field : TextField} :
    (Request.ofFields fields).text field = .error fault ↔
      Fails (.object fields) (.text field.key) fault := by
  constructor
  · intro failed
    exact .text (field_error_iff.mp failed)
  · intro check
    cases check with
    | text fails => exact field_error_iff.mpr fails

theorem left_scope_error_iff :
    (Request.ofFields fields).leftScope = .error fault ↔
      Fails (.object fields) .leftScope fault := by
  constructor
  · intro failed
    exact .leftScope (field_error_iff.mp failed)
  · intro check
    cases check with
    | leftScope fails => exact field_error_iff.mpr fails

theorem rule_parameters_error_iff :
    (Request.ofFields fields).ruleParameters = .error fault ↔
      Fails (.object fields) .ruleParameters fault := by
  constructor
  · intro failed
    exact .ruleParameters (document_error_iff.mp failed)
  · intro check
    cases check with
    | ruleParameters fails => exact document_error_iff.mpr fails

/-- A last check, after which there is always an answer. -/
theorem last_error_iff {α β : Type} {payload : Json} {check : Check}
    {result : Except FieldError α} {change : α → β}
    (now : ∀ {other}, result = .error other ↔ Fails payload check other) :
    result.map change = .error fault ↔ FirstFails payload [check] fault := by
  have bound : result.map change = result.bind fun content => .ok (change content) := by
    cases result <;> rfl
  rw [bound]
  apply bind_error_iff now
  intro content _
  simpa using not_first_of_none

theorem judge_item_error_iff :
    judgeItem (.ofFields fields) item = .error fault ↔
      FirstFails (.object fields)
        (.leftScope ::
          if flagOf (.object fields) "eventLeftScope" = some false ∧ ¬Deleted item
          then [.ruleParameters] else []) fault := by
  rw [judge_item_eq]
  apply bind_error_iff left_scope_error_iff
  intro leftScope found
  have flag : flagOf (.object fields) "eventLeftScope" = some leftScope := field_ok_iff.mp found
  cases leftScope with
  | true => simpa [flag] using not_first_of_none
  | false =>
      by_cases deleted : Deleted item
      · have status := (is_deleted_iff item).mpr deleted
        simpa [flag, deleted, status] using not_first_of_none
      · have status := mt (is_deleted_iff item).mp deleted
        simpa [flag, deleted, status] using last_error_iff rule_parameters_error_iff

theorem conclude_error_iff :
    conclude (.ofFields fields) document item = .error fault ↔
      FirstFails (.object fields) (lateChecks (.object fields) document item) fault := by
  unfold conclude lateChecks
  cases kindOf document with
  | change =>
      simp only
      rw [map_error_iff, judge_item_error_iff]
  | oversized => simpa using not_first_of_none
  | periodic => exact last_error_iff text_error_iff

theorem assess_error_iff (payload : Json) :
    assess payload = .error fault ↔ FirstFails payload (checksOf payload) fault := by
  rw [assess_eq]
  unfold checksOf
  -- One bind for each check of the list, in its order.
  apply bind_error_iff payload_error_iff
  intro request accepted
  obtain ⟨fields, rfl, rfl⟩ := eq_of_request accepted
  apply bind_error_iff text_error_iff
  intro resultToken _
  apply bind_error_iff text_error_iff
  intro ruleName _
  apply bind_error_iff event_document_error_iff
  intro document read
  rw [event_document_ok_iff.mp read]
  apply bind_error_iff (subject_error_iff (event_document_ok_iff.mp read))
  intro item selected
  simp only [subject_ok_iff.mp selected]
  rw [map_error_iff, conclude_error_iff]
  exact Iff.rfl

end Steps

end FunctionKit.ConfigRule
