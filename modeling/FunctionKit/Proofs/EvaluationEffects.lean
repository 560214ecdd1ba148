import FunctionKit.Proofs.Checks
import FunctionKit.Proofs.EditedKeys
import FunctionKit.Proofs.FaultyStreams
import FunctionKit.Proofs.Services

/-!
# Effects of an evaluation

An evaluation logs and binds keys between its checks, and ends at the first one that fails. What it
returns is told by the payload. What it leaves behind is told by how far it came: the invocation is
always bound, the rule as soon as it is known, and the outcome is logged only if there is one.
-/

namespace FunctionKit

set_option autoImplicit false

/-! ## The name of the rule -/

namespace ConfigRule

/-- The name of the rule, if a payload tells it in text beside a token. -/
def ruleNameOf (payload : Json) : Option String :=
  (textOf payload "resultToken").bind fun _ => textOf payload "configRuleName"

theorem text_to_option (fields : Fields) (field : TextField) :
    ((Request.ofFields fields).text field).toOption = textOf (.object fields) field.key := by
  cases held : (Request.ofFields fields).text field with
  | ok content => exact (field_ok_iff.mp held).symm
  | error fault =>
      apply Eq.symm
      apply Option.eq_none_iff_forall_ne_some.mpr
      intro content found
      exact not_ok_of_error held (field_ok_iff.mpr found)

/-- The rule is known as soon as a request is identified, and no earlier. -/
theorem rule_name_of_identify (payload : Json) :
    (identify payload).toOption.map Identified.ruleName = ruleNameOf payload := by
  cases payload with
  | object fields =>
      have token := text_to_option fields .resultToken
      have name := text_to_option fields .ruleName
      have asked : ruleNameOf (.object fields) =
          (textOf (.object fields) TextField.resultToken.key).bind fun _ =>
            textOf (.object fields) TextField.ruleName.key := rfl
      have accepted : Request.ofJson (.object fields) = .ok (.ofFields fields) := rfl
      unfold identify
      rw [accepted, asked, ← token, ← name]
      dsimp only
      cases (Request.ofFields fields).text .resultToken with
      | error fault => rfl
      | ok resultToken =>
          dsimp only
          cases (Request.ofFields fields).text .ruleName <;> rfl
  | _ => rfl

end ConfigRule

namespace Logging

open FunctionKit.ConfigRule

/-! ## The steps in their order -/

/-- Steps that change the state and may end with the error of a field. -/
abbrev Procedure (α : Type) := ExceptT FieldError (StateM State) α

namespace Procedure

variable {α β : Type}

def change (effect : State → State) : Procedure Unit :=
  modify effect

/-- A check that fails ends the procedure and leaves the state as it is. -/
def check (result : Except FieldError α) : Procedure α :=
  ExceptT.mk (pure result)

end Procedure

def ruleNameKey : String := "config_rule_name"

/-- The keys that an evaluation may bind or unbind. -/
def evaluationKeys : List String :=
  ["function_name", "function_memory_size", "function_arn", "function_request_id", "cold_start",
   "xray_trace_id", ruleNameKey]

/-- What is bound after an evaluation, told by what was bound before it. -/
structure BoundByEvaluation (cold : Bool) (invocation : Invocation) (payload : Json)
    (before after : Fields) : Prop where
  functionName : Dict.get? "function_name" after = some (.string invocation.functionName)
  memorySize : Dict.get? "function_memory_size" after = some (.ofInt invocation.memorySize)
  functionArn : Dict.get? "function_arn" after = some (.string invocation.functionArn)
  requestId : Dict.get? "function_request_id" after = some (.string invocation.requestId)
  coldStart : Dict.get? "cold_start" after = some (.bool cold)
  traceId : Dict.get? "xray_trace_id" after = invocation.traceId.map .string
  ruleName : Dict.get? ruleNameKey after =
    ((ruleNameOf payload).map .string).or (Dict.get? ruleNameKey before)
  others : ∀ key, key ∉ evaluationKeys → Dict.get? key after = Dict.get? key before

theorem evaluation_edits_eq (cold : Bool) (invocation : Invocation) (payload : Json) :
    evaluationEdits cold invocation payload =
      [.append (invocation.keys cold)] ++
        ((ruleNameOf payload).map fun name =>
          KeyEdit.append [(ruleNameKey, .string name)]).toList := by
  rw [← rule_name_of_identify]
  unfold evaluationEdits
  cases identify payload <;> rfl

theorem last_word_of_evaluation (key : String) (cold : Bool) (invocation : Invocation)
    (payload : Json) :
    KeyEdit.lastWord? key (evaluationEdits cold invocation payload) =
      (if key = ruleNameKey then (ruleNameOf payload).map fun name => some (.string name)
        else none).or
      ((Dict.lastValue? key (invocation.keys cold)).map boundAs) := by
  rw [evaluation_edits_eq, KeyEdit.last_word_append, KeyEdit.last_word_single]
  congr 1
  cases ruleNameOf payload with
  | none => exact (ite_self _).symm
  | some name =>
      simp only [Option.map_some, Option.toList_some, KeyEdit.last_word_single, KeyEdit.word?]
      by_cases here : key = ruleNameKey
      · rw [if_pos here, here]
        rfl
      · simp [Dict.lastValue?, here, Ne.symm here]

theorem bound_by_evaluation (cold : Bool) (invocation : Invocation) (payload : Json)
    (before : Fields) :
    BoundByEvaluation cold invocation payload before
      (KeyEdit.applyAll (evaluationEdits cold invocation payload) before) := by
  have told : ∀ key, Dict.get? key (KeyEdit.applyAll (evaluationEdits cold invocation payload)
        before) =
      ((if key = ruleNameKey then (ruleNameOf payload).map fun name => some (.string name)
          else none).or
        ((Dict.lastValue? key (invocation.keys cold)).map boundAs)).getD
          (Dict.get? key before) := by
    intro key
    rw [KeyEdit.get?_apply_all, last_word_of_evaluation]
  constructor
  case ruleName =>
    rw [told]
    cases ruleNameOf payload <;> rfl
  case traceId =>
    rw [told]
    change boundAs (.ofOption invocation.traceId) = _
    cases invocation.traceId <;> rfl
  case others =>
    intro key other
    have listed : evaluationKeys = Dict.keys (invocation.keys cold) ++ [ruleNameKey] := rfl
    rw [listed, List.mem_append, List.mem_singleton, not_or] at other
    have absent := Dict.last_value_of_absent other.1
    have unnamed := other.2
    rw [told, if_neg unnamed, absent]
    rfl
  all_goals
    rw [told]
    rfl

namespace State

/-! ## Bytes -/

section Bytes

variable {start after : State} {handed : List Handover}

theorem Hands.opens (hands : Hands start handed after) :
    ∃ opened, after.streams = start.streams ++ opened := by
  induction hands with
  | start => exact ⟨[], (List.append_nil _).symm⟩
  | quiet _ still ih =>
      obtain ⟨early, streams⟩ := ih
      obtain ⟨late, more⟩ := still.streams
      exact ⟨early ++ late, by rw [more, streams, List.append_assoc]⟩
  | @hand _ before _ next ih =>
      rw [(before.hand_only_writes next).streams]
      exact ih

/-- As long as no stream is opened, each outlet takes the bytes that are sent to it as far as it
takes bytes at all. -/
theorem Hands.contents (hands : Hands start handed after) (same : after.streams = start.streams)
    (outlet : Outlet) :
    after.contents outlet =
      start.contents outlet ++ start.accepted outlet (sentTo outlet handed) := by
  induction hands with
  | start =>
      rw [sentTo, List.flatMap_nil, accepted_nil, List.append_nil]
  | quiet hands still ih =>
      obtain ⟨early, streams⟩ := hands.opens
      obtain ⟨late, more⟩ := still.streams
      have nothing : early ++ late = [] := by
        rw [more, streams, List.append_assoc] at same
        exact List.append_right_eq_self.mp same
      rw [(List.append_eq_nil_iff.mp nothing).1, List.append_nil] at streams
      rw [still.contents, ih streams]
  | @hand handed before hands next ih =>
      have streams := same.symm.trans (before.hand_only_writes next).streams
      have took := ih streams.symm
      have stream : before.stream? outlet = start.stream? outlet := by
        cases outlet with
        | stream id => simp only [stream?, streams]
        | standardOutput => rfl
      rw [contents_hand, took, sent_to_snoc, accepted_append stream took, List.append_assoc]
      by_cases here : next.outlet = outlet
      · rw [if_pos here, if_pos here]
      · rw [if_neg here, if_neg here, accepted_nil]

end Bytes

/-! ## Lines -/

/-- The lines of a record of a logger, with the keys that handlers show at a moment. -/
def linesAt (state moment : State) (logger : Logger) (record : Record) : List Handover :=
  if (state.registry logger.registry).isEnabled logger.name record.level then
    ((state.registry logger.registry).audience logger.name).filterMap
      (moment.handover? .call record)
  else []

section Lines

variable {state first second : State} {logger : Logger}

theorem OnlyEdits.lines {edits : List KeyEdit} (only : OnlyEdits logger edits state first)
    (record : Record) :
    first.delivered .call logger.registry logger.name record =
      state.linesAt first logger record :=
  only.delivered .call logger.registry logger.name record

theorem lines_of_writes (writes : OnlyWrites first second) (record : Record) :
    state.linesAt second logger record = state.linesAt first logger record := by
  unfold linesAt
  rw [handover_of_same writes.registries writes.formatters]

end Lines

section Evaluation

variable (state : State) (logger : Logger) (eventSite outcomeSite : CallSite)
  (invocation : Invocation) (payload : Json)

def incomingRecord : Record :=
  logger.record eventSite .info "incoming event" [("event", payload)]

def outcomeRecord (evaluation : Evaluation) : Record :=
  logger.record outcomeSite .info evaluation.summary []

theorem evaluate_only_edits :
    OnlyEdits logger (evaluationEdits state.coldStart invocation payload) state
      (state.evaluate logger eventSite outcomeSite invocation payload) := by
  have injected := state.inject_invocation_only_edits logger invocation
  have received := injected.then_writes
    (log_incoming_only_writes _ logger eventSite (.ok payload))
  unfold evaluate evaluationEdits
  dsimp only
  cases identify payload with
  | error fault => exact received
  | ok identified =>
      have named := received.trans (modify_keys_only_edits _ logger
        (.append [(ruleNameKey, .string identified.ruleName)]))
      dsimp only
      cases identified.assess with
      | error fault => exact named
      | ok evaluation => exact named.then_writes (deliver_only_writes _ _ _ _ _)

theorem incoming_lines :
    (state.injectInvocation logger invocation).incoming logger eventSite (.ok payload) =
      if logger.logEvent then
        state.linesAt (state.injectInvocation logger invocation) logger
          (incomingRecord logger eventSite payload)
      else [] := by
  unfold incoming
  split
  · exact (state.inject_invocation_only_edits logger invocation).lines
      (incomingRecord logger eventSite payload)
  · rfl

/-- The lines of the event show the rule that was bound before, those of the outcome the rule of the
payload. -/
theorem evaluated_eq :
    state.evaluated logger eventSite outcomeSite invocation payload =
      (if logger.logEvent then
        state.linesAt (state.injectInvocation logger invocation) logger
          (incomingRecord logger eventSite payload)
        else []) ++
      match assess payload with
      | .error _ => []
      | .ok evaluation =>
        state.linesAt (state.evaluate logger eventSite outcomeSite invocation payload) logger
          (outcomeRecord logger outcomeSite evaluation) := by
  have received := (state.inject_invocation_only_edits logger invocation).then_writes
    (log_incoming_only_writes _ logger eventSite (.ok payload))
  unfold evaluated
  dsimp only
  rw [incoming_lines]
  congr 1
  unfold assess evaluate
  cases identify payload with
  | error fault => rfl
  | ok identified =>
      dsimp only [Except.bind]
      cases identified.assess with
      | error fault => rfl
      | ok evaluation =>
          dsimp only
          have named := received.trans (modify_keys_only_edits _ logger
            (.append [(ruleNameKey, .string identified.ruleName)]))
          have lines := named.lines (outcomeRecord logger outcomeSite evaluation)
          exact lines.trans (lines_of_writes (deliver_only_writes _ _ _ _ _) _).symm

end Evaluation

/-! ## An evaluation as a whole -/

end State

end Logging

end FunctionKit
