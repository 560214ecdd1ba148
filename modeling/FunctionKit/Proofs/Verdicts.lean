import FunctionKit.Proofs.Checks
import FunctionKit.Proofs.RequiredTags

/-!
# What decides an evaluation

If no check fails there is an evaluation. Its verdict, what it is about and its time can be told from
the fields of the payload.
-/

namespace FunctionKit.ConfigRule

set_option autoImplicit false

def parametersOf (payload : Json) : Option (Dict String) :=
  (textOf payload "ruleParameters").bind fun source => (Json.readStrings source).toOption

/-- A change that neither left the scope nor reports a deletion. -/
structure ToBeJudged (payload : Json) (document item : Fields) : Prop where
  change : kindOf document = .change
  in_scope : flagOf payload "eventLeftScope" = some false
  not_deleted : ¬Deleted item

/-- A text under a key; no text counts as the empty one. -/
def HasText (fields : Fields) (key text : String) : Prop :=
  Dict.get? key fields = some (.string text) ∨
    text = "" ∧ ∀ other, Dict.get? key fields ≠ some (.string other)

/-! ## What an answer says -/

def timestampKey : Kind → String
  | .periodic => "notificationCreationTime"
  | _ => "configurationItemCaptureTime"

/-- What an evaluation says about the item that is selected from a document. -/
structure Decides (payload : Json) (document item : Fields) (evaluation : Evaluation) : Prop where
  read : documentOf payload = some document
  selected : selectedOf document = some item
  compliant : evaluation.finding.verdict.compliance = .compliant ↔
    kindOf document = .periodic ∨
      ToBeJudged payload document item ∧
        ∃ parameters, parametersOf payload = some parameters ∧
          ∀ parameter ∈ parameters, Satisfied item parameter
  non_compliant : evaluation.finding.verdict.compliance = .nonCompliant ↔
    ToBeJudged payload document item ∧
      ∃ parameters, parametersOf payload = some parameters ∧
        ∃ parameter ∈ parameters, ¬Satisfied item parameter
  not_applicable : evaluation.finding.verdict.compliance = .notApplicable ↔
    kindOf document = .oversized ∨
      kindOf document = .change ∧ (flagOf payload "eventLeftScope" = some true ∨ Deleted item)
  token : textOf payload "resultToken" = some evaluation.resultToken
  about_account : kindOf document = .periodic →
    evaluation.finding.subject.resourceType = "AWS::::Account" ∧
      textOf payload "accountId" = some evaluation.finding.subject.resourceId
  about_item : kindOf document ≠ .periodic →
    HasText item "resourceType" evaluation.finding.subject.resourceType ∧
      HasText item "resourceId" evaluation.finding.subject.resourceId
  time : ∀ stamp, evaluation.orderingTimestamp? = some stamp ↔
    stamp ≠ "" ∧ Dict.get? (timestampKey (kindOf document)) item = some (.string stamp)

theorem has_text_or_empty (fields : Fields) (key : String) :
    HasText fields key (textOrEmpty fields key) := by
  unfold HasText textOrEmpty
  cases found : Dict.get? key fields with
  | none => simp
  | some value => cases value <;> simp [Json.asString?]

theorem text_or_empty_eq_iff {fields : Fields} {key text : String} (nonEmpty : text ≠ "") :
    textOrEmpty fields key = text ↔ Dict.get? key fields = some (.string text) := by
  obtain found | ⟨empty, none⟩ := has_text_or_empty fields key
  · rw [found]
    simp only [Option.some.injEq, Json.string.injEq]
  · rw [empty]
    constructor
    · intro same
      exact absurd same.symm nonEmpty
    · intro found
      exact absurd found (none text)

theorem stamp_iff {evaluation : Evaluation} {fields : Fields} {key : String}
    (time : evaluation.finding.subject.orderingTimestamp = textOrEmpty fields key)
    (stamp : String) :
    evaluation.orderingTimestamp? = some stamp ↔
      stamp ≠ "" ∧ Dict.get? key fields = some (.string stamp) := by
  unfold Evaluation.orderingTimestamp?
  rw [time]
  by_cases empty : textOrEmpty fields key = ""
  · simp only [empty, if_true, reduceCtorEq, false_iff, not_and]
    intro nonEmpty found
    rw [(text_or_empty_eq_iff nonEmpty).mpr found] at empty
    exact nonEmpty empty
  · simp only [empty, if_false, Option.some.injEq]
    constructor
    · rintro rfl
      exact ⟨empty, (text_or_empty_eq_iff empty).mp rfl⟩
    · rintro ⟨nonEmpty, found⟩
      exact (text_or_empty_eq_iff nonEmpty).mpr found

theorem ok_of_bind {α β : Type} {result : Except FieldError α} {next : α → Except FieldError β}
    {answer : β} (answered : result.bind next = .ok answer) :
    ∃ content, result = .ok content ∧ next content = .ok answer := by
  cases result with
  | error fault => cases answered
  | ok content => exact ⟨content, rfl, answered⟩

theorem ok_of_map {α β : Type} {result : Except FieldError α} {change : α → β} {answer : β}
    (answered : result.map change = .ok answer) :
    ∃ content, result = .ok content ∧ change content = answer := by
  cases result with
  | error fault => cases answered
  | ok content =>
      cases answered
      exact ⟨content, rfl, rfl⟩

section Answers

variable {fields document item : Fields}

theorem rule_parameters_ok_iff {parameters : Dict String} :
    (Request.ofFields fields).ruleParameters = .ok parameters ↔
      parametersOf (.object fields) = some parameters := by
  have key : TextField.ruleParameters.key = "ruleParameters" := rfl
  unfold Request.ruleParameters parametersOf Request.ofFields
  rw [key, document_ok_iff]
  simp only [Option.bind_eq_some_iff]
  have read : ∀ source, Json.readStrings source = .ok parameters ↔
      (Json.readStrings source).toOption = some parameters := by
    intro source
    cases Json.readStrings source <;> simp [Except.toOption]
  simp only [read]

/-- A change is passed over, or judged by the parameters of the rule. -/
theorem judge_item_ok {verdict : Verdict}
    (answered : judgeItem (.ofFields fields) item = .ok verdict) :
    (verdict.compliance = .notApplicable ∧
        (flagOf (.object fields) "eventLeftScope" = some true ∨ Deleted item)) ∨
      (flagOf (.object fields) "eventLeftScope" = some false ∧ ¬Deleted item ∧
        ∃ parameters, parametersOf (.object fields) = some parameters ∧
          verdict = checkTags item parameters) := by
  rw [judge_item_eq] at answered
  obtain ⟨leftScope, flagged, answered⟩ := ok_of_bind answered
  have flag : flagOf (.object fields) "eventLeftScope" = some leftScope := field_ok_iff.mp flagged
  rw [flag]
  split at answered
  · rename_i out
    rw [Bool.or_eq_true, is_deleted_iff] at out
    cases answered
    exact .inl ⟨rfl, out.imp_left (congrArg some)⟩
  · rename_i inScope
    rw [Bool.or_eq_true, is_deleted_iff, not_or, Bool.not_eq_true] at inScope
    obtain ⟨notLeft, notDeleted⟩ := inScope
    obtain ⟨parameters, read, rfl⟩ := ok_of_map answered
    exact .inr ⟨congrArg some notLeft, notDeleted, parameters, rule_parameters_ok_iff.mp read, rfl⟩

/-- The verdict on a change, as the payload tells it. -/
theorem verdict_of_change {verdict : Verdict} (change : kindOf document = .change)
    (answered : judgeItem (.ofFields fields) item = .ok verdict) :
    (verdict.compliance = .compliant ↔
      ToBeJudged (.object fields) document item ∧
        ∃ parameters, parametersOf (.object fields) = some parameters ∧
          ∀ parameter ∈ parameters, Satisfied item parameter) ∧
    (verdict.compliance = .nonCompliant ↔
      ToBeJudged (.object fields) document item ∧
        ∃ parameters, parametersOf (.object fields) = some parameters ∧
          ∃ parameter ∈ parameters, ¬Satisfied item parameter) ∧
    (verdict.compliance = .notApplicable ↔
      flagOf (.object fields) "eventLeftScope" = some true ∨ Deleted item) := by
  obtain ⟨passed, out⟩ | ⟨inScope, notDeleted, parameters, read, rfl⟩ := judge_item_ok answered
  · have notJudged : ¬ToBeJudged (.object fields) document item := by
      rintro ⟨_, inScope, notDeleted⟩
      obtain left | deleted := out
      · rw [inScope] at left
        cases left
      · exact notDeleted deleted
    simp [passed, notJudged, out]
  · have judged : ToBeJudged (.object fields) document item := ⟨change, inScope, notDeleted⟩
    have notApplicable := check_tags_applies item parameters
    simp [judged, read, check_tags_compliant_iff, check_tags_non_compliant_iff, notApplicable,
      inScope, notDeleted]

theorem decides_of_conclude {finding : Finding} {resultToken : String}
    (read : documentOf (.object fields) = some document) (selected : selectedOf document = some item)
    (token : textOf (.object fields) "resultToken" = some resultToken)
    (answered : conclude (.ofFields fields) document item = .ok finding) :
    Decides (.object fields) document item ⟨finding, resultToken⟩ := by
  unfold conclude at answered
  cases kind : kindOf document with
  | change =>
      simp only [kind] at answered
      obtain ⟨verdict, judged, rfl⟩ := ok_of_map answered
      obtain ⟨compliant, nonCompliant, notApplicable⟩ := verdict_of_change kind judged
      exact
        { read, selected, token
          compliant := by simpa [kind] using compliant
          non_compliant := nonCompliant
          not_applicable := by simpa [kind] using notApplicable
          about_account := by simp [kind]
          about_item := fun _ => ⟨has_text_or_empty _ _, has_text_or_empty _ _⟩
          time := by
            rw [kind]
            exact stamp_iff rfl }
  | oversized =>
      simp only [kind] at answered
      cases answered
      have notJudged : ¬ToBeJudged (.object fields) document item :=
        mt ToBeJudged.change (by simp [kind])
      exact
        { read, selected, token
          compliant := by simp [kind, notJudged]
          non_compliant := by simp [notJudged]
          not_applicable := by simp [kind]
          about_account := by simp [kind]
          about_item := fun _ => ⟨has_text_or_empty _ _, has_text_or_empty _ _⟩
          time := by
            rw [kind]
            exact stamp_iff rfl }
  | periodic =>
      simp only [kind] at answered
      obtain ⟨account, found, rfl⟩ := ok_of_map answered
      have notJudged : ¬ToBeJudged (.object fields) document item :=
        mt ToBeJudged.change (by simp [kind])
      exact
        { read, selected, token
          compliant := by simp [kind]
          non_compliant := by simp [notJudged]
          not_applicable := by simp [kind]
          about_account := fun _ => ⟨rfl, field_ok_iff.mp found⟩
          about_item := by simp [kind]
          time := by
            rw [kind]
            exact stamp_iff rfl }

end Answers

theorem decides_of_ok {payload : Json} {evaluation : Evaluation}
    (answered : assess payload = .ok evaluation) :
    ∃ document item, Decides payload document item evaluation := by
  rw [assess_eq] at answered
  obtain ⟨request, accepted, answered⟩ := ok_of_bind answered
  obtain ⟨fields, rfl, rfl⟩ := eq_of_request accepted
  obtain ⟨resultToken, token, answered⟩ := ok_of_bind answered
  obtain ⟨_, _, answered⟩ := ok_of_bind answered
  obtain ⟨document, read, answered⟩ := ok_of_bind answered
  obtain ⟨item, selected, answered⟩ := ok_of_bind answered
  obtain ⟨finding, concluded, rfl⟩ := ok_of_map answered
  exact ⟨document, item, decides_of_conclude (event_document_ok_iff.mp read)
    (subject_ok_iff.mp selected) (field_ok_iff.mp token) concluded⟩

/-- An evaluation fails with the first failing check. If none fails, it answers, and its answer is
decided by the payload. -/
theorem evaluations_follow_the_first_failing_check (payload : Json) :
    (∀ fault, assess payload = .error fault ↔ FirstFails payload (checksOf payload) fault) ∧
      ((∀ check ∈ checksOf payload, ∀ fault, ¬Fails payload check fault) ↔
        ∃ evaluation, assess payload = .ok evaluation ∧
          ∃ document item, Decides payload document item evaluation) := by
  constructor
  · intro fault
    exact assess_error_iff payload
  · constructor
    · intro passes
      cases answer : assess payload with
      | error fault =>
          obtain ⟨check, member, other, fails⟩ := exists_failing ((assess_error_iff payload).mp answer)
          exact absurd fails (passes check member other)
      | ok evaluation => exact ⟨evaluation, rfl, decides_of_ok answer⟩
    · rintro ⟨evaluation, answer, _⟩ check member fault fails
      obtain ⟨first, firstFails⟩ := exists_first member fails
      exact not_ok_of_error ((assess_error_iff payload).mpr firstFails) answer

-- The parameters of a change that left the scope are not read, so it does not matter what they are.
example :
    let payload : Json := .object [("configRuleName", .string "required-tags"),
      ("eventLeftScope", .bool true),
      ("invokingEvent", .string "\x7b\"configurationItem\":\x7b\x7d\x7d"),
      ("resultToken", .string "token"), ("ruleParameters", .string "no document")]
    (assess payload).map (fun evaluation => evaluation.finding.verdict.compliance) =
      .ok .notApplicable := by
  rfl

end FunctionKit.ConfigRule
