import FunctionKit.Proofs.EvaluationEffects
import FunctionKit.Proofs.LogLines

/-!
# Rules in the lines of calls

The rule of a call is bound in the middle of it. The line of its event comes before that and shows
the rule that an earlier call has left, the line of its outcome comes after and shows its own.
-/

namespace FunctionKit.Logging

set_option autoImplicit false

open FunctionKit.ConfigRule

/-- What a logger is called with. -/
structure Call where
  eventSite : CallSite
  outcomeSite : CallSite
  invocation : Invocation
  payload : Json

def Call.command (logger : Logger) (call : Call) : Command :=
  .evaluate logger call.eventSite call.outcomeSite call.invocation call.payload

/-- The rule of the last call that came far enough to bind it. -/
def latestRule? (calls : List Call) : Option String :=
  (calls.filterMap fun call => ruleNameOf call.payload).getLast?

/-- What is bound under the rule's key. -/
def Logger.boundRule (logger : Logger) (state : State) : Option Json :=
  Dict.get? ruleNameKey (logger.boundKeys state)

theorem latest_rule_concat (calls : List Call) (call : Call) :
    latestRule? (calls ++ [call]) = (ruleNameOf call.payload).or (latestRule? calls) := by
  unfold latestRule?
  rw [List.filterMap_append, List.filterMap_cons]
  cases ruleNameOf call.payload <;> simp

theorem rule_of_assessed {payload : Json} {evaluation : Evaluation}
    (assessed : assess payload = .ok evaluation) : ∃ name, ruleNameOf payload = some name := by
  rw [← rule_name_of_identify]
  unfold assess at assessed
  cases known : identify payload with
  | error fault =>
      rw [known] at assessed
      cases assessed
  | ok identified => exact ⟨identified.ruleName, rfl⟩

namespace State

/-- A line with a record, of someone who hears the logger and shows other keys than the logger's. -/
def ShownElsewhere (state : State) (logger : Logger) (record : Record) (handover : Handover) :
    Prop :=
  ∃ handler ∈ (state.registry logger.registry).audience logger.name,
    handler.formatter ≠ some logger.formatter ∧
      handover.line = state.line handler.formatter record

section Lines

variable {state moment before : State} {logger : Logger} {edits : List KeyEdit}

theorem mem_lines_at {record : Record} {handover : Handover} :
    handover ∈ state.linesAt moment logger record ↔
      (state.registry logger.registry).isEnabled logger.name record.level = true ∧
        ∃ handler ∈ (state.registry logger.registry).audience logger.name,
          moment.handover? .call record handler = some handover := by
  unfold linesAt
  split
  · rename_i enabled
    rw [List.mem_filterMap]
    exact (and_iff_right enabled).symm
  · rename_i disabled
    exact iff_of_false List.not_mem_nil fun told => disabled told.1

theorem line_with_formatter (moment : State) (logger : Logger) (record : Record) :
    moment.line (some logger.formatter) record =
      (Json.object (record.toFields (logger.boundKeys moment))).compactText :=
  rfl

theorem OnlyEdits.lines_at (only : OnlyEdits logger edits state before) (moment : State)
    (record : Record) :
    before.linesAt moment logger record = state.linesAt moment logger record := by
  unfold linesAt
  rw [only.is_enabled, only.audience]

/-- A line shows the keys of the logger at its moment or is as it would have been before. -/
theorem OnlyEdits.line_of_mem (only : OnlyEdits logger edits state moment) {record : Record}
    {handover : Handover} (member : handover ∈ state.linesAt moment logger record) :
    handover.line = (Json.object (record.toFields (logger.boundKeys moment))).compactText ∨
      state.ShownElsewhere logger record handover := by
  obtain ⟨_, handler, hears, handed⟩ := mem_lines_at.mp member
  obtain ⟨_, outlet, _, same⟩ := handover_some_iff.mp handed
  have line : handover.line = moment.line handler.formatter record := by rw [← same]
  by_cases own : handler.formatter = some logger.formatter
  · rw [own, line_with_formatter] at line
    exact .inl line
  · rw [only.other_lines own] at line
    exact .inr ⟨handler, hears, own, line⟩

end Lines

section Calls

variable {state : State} {logger : Logger}

/-! ## Calls in a row -/

theorem call_only_edits (state : State) (logger : Logger) (call : Call) :
    OnlyEdits logger (evaluationEdits state.coldStart call.invocation call.payload) state
      (state.perform (call.command logger)) :=
  state.evaluate_only_edits logger call.eventSite call.outcomeSite call.invocation call.payload

theorem calls_only_edit (state : State) (logger : Logger) (calls : List Call) :
    ∃ edits, OnlyEdits logger edits state (run state (calls.map (Call.command logger))) := by
  induction calls using List.reverseRecOn with
  | nil => exact ⟨[], .of_only_writes (.refl state)⟩
  | append_singleton earlier call ih =>
      obtain ⟨edits, only⟩ := ih
      rw [List.map_append, List.map_singleton, run_concat]
      exact ⟨_, only.trans (call_only_edits _ logger call)⟩

theorem bound_rule_of_evaluate
    (registered : (state.registry logger.registry).isRegistered logger.service = true)
    (call : Call) :
    logger.boundRule (state.perform (call.command logger)) =
      ((ruleNameOf call.payload).map .string).or (logger.boundRule state) := by
  have only := state.call_only_edits logger call
  have bound := bound_by_evaluation state.coldStart call.invocation call.payload
    (logger.boundKeys state)
  rw [← only.bound_keys registered] at bound
  exact bound.ruleName

/-- What is bound after some calls is the rule of the last one that bound its own. -/
theorem bound_rule_after_calls
    (registered : (state.registry logger.registry).isRegistered logger.service = true)
    (calls : List Call) :
    logger.boundRule (run state (calls.map (Call.command logger))) =
      ((latestRule? calls).map .string).or (logger.boundRule state) := by
  induction calls using List.reverseRecOn with
  | nil => rfl
  | append_singleton earlier call ih =>
      obtain ⟨edits, only⟩ := state.calls_only_edit logger earlier
      have still := (only.is_registered logger.registry logger.service).trans registered
      rw [List.map_append, List.map_singleton, run_concat, bound_rule_of_evaluate still, ih,
        latest_rule_concat, Option.map_or, Option.or_assoc]

/-- To bind what is known of an invocation leaves the rule alone. -/
theorem bound_rule_of_injection
    (registered : (state.registry logger.registry).isRegistered logger.service = true)
    (invocation : Invocation) :
    logger.boundRule (state.injectInvocation logger invocation) = logger.boundRule state := by
  have only := state.inject_invocation_only_edits logger invocation
  have unnamed : Dict.lastValue? ruleNameKey (invocation.keys state.coldStart) = none :=
    rfl
  unfold Logger.boundRule
  rw [only.bound_keys registered, KeyEdit.get?_apply_all, KeyEdit.last_word_single, KeyEdit.word?,
    unnamed]
  rfl

end Calls

theorem rule_of_fields (record : Record) (bound : Fields)
    (distinct : (Dict.keys record.extra).Nodup) (unlisted : ruleNameKey ∉ Dict.keys record.extra) :
    Dict.get? ruleNameKey (record.toFields bound) = Dict.get? ruleNameKey bound := by
  rw [Record.get?_to_fields bound record distinct]
  unfold Record.shownAt
  rw [Dict.get?_of_not_mem unlisted]
  rfl

/-! ## Lines of calls -/

/-- Someone writes the records of a logger at INFO, and with its keys. -/
structure HeardWithKeys (state : State) (logger : Logger) : Prop where
  enabled : (state.registry logger.registry).isEnabled logger.name .info = true
  hears : ∃ handler ∈ (state.registry logger.registry).audience logger.name,
    handler.formatter = some logger.formatter ∧ Level.info.passes handler.level = true ∧
      handler.outlet.isSome = true

theorem HeardWithKeys.line {state : State} {logger : Logger} (heard : state.HeardWithKeys logger)
    {record : Record} (level : record.level = .info) (moment : State) :
    ∃ handover ∈ state.linesAt moment logger record,
      handover.line = (Json.object (record.toFields (logger.boundKeys moment))).compactText := by
  obtain ⟨enabled, handler, hears, own, passes, opened⟩ := heard
  obtain ⟨outlet, opened⟩ := Option.isSome_iff_exists.mp opened
  rw [← level] at enabled passes
  have handed : moment.handover? .call record handler =
      some ⟨outlet, moment.line handler.formatter record, record.logger, .call⟩ :=
    handover_some_iff.mpr ⟨passes, outlet, opened, rfl⟩
  refine ⟨_, mem_lines_at.mpr ⟨enabled, handler, hears, handed⟩, ?_⟩
  rw [own, line_with_formatter]

section Call

variable {state before : State} {logger : Logger} {edits : List KeyEdit}

/-- What the line of the event shows with the keys of the logger. -/
def eventShown (before : State) (logger : Logger) (call : Call) : Fields :=
  (incomingRecord logger call.eventSite call.payload).toFields
    (logger.boundKeys (before.injectInvocation logger call.invocation))

/-- What the line of the outcome shows with the keys of the logger. -/
def outcomeShown (before : State) (logger : Logger) (call : Call) (evaluation : Evaluation) :
    Fields :=
  (outcomeRecord logger call.outcomeSite evaluation).toFields
    (logger.boundKeys (before.perform (call.command logger)))

theorem rule_of_event
    (registered : (before.registry logger.registry).isRegistered logger.service = true)
    (call : Call) :
    Dict.get? ruleNameKey (before.eventShown logger call) = logger.boundRule before := by
  have apart : ruleNameKey ≠ "event" := by decide
  have once : (Dict.keys (incomingRecord logger call.eventSite call.payload).extra).Nodup :=
    List.nodup_singleton _
  have unlisted :
      ruleNameKey ∉ Dict.keys (incomingRecord logger call.eventSite call.payload).extra :=
    fun member => apart (List.mem_singleton.mp member)
  exact (rule_of_fields _ _ once unlisted).trans
    (bound_rule_of_injection registered call.invocation)

theorem rule_of_outcome
    (registered : (before.registry logger.registry).isRegistered logger.service = true)
    {call : Call} {evaluation : Evaluation} (assessed : assess call.payload = .ok evaluation) :
    ∃ name, ruleNameOf call.payload = some name ∧
      Dict.get? ruleNameKey (before.outcomeShown logger call evaluation) =
        some (.string name) := by
  obtain ⟨name, known⟩ := rule_of_assessed assessed
  have shown := rule_of_fields (outcomeRecord logger call.outcomeSite evaluation)
    (logger.boundKeys (before.perform (call.command logger))) List.nodup_nil List.not_mem_nil
  have bound := bound_rule_of_evaluate registered call
  rw [known] at bound
  exact ⟨name, known, shown.trans bound⟩

/-- After calls the lines of a call go to those who would have taken them before. -/
theorem OnlyEdits.mem_handovers_iff (only : OnlyEdits logger edits state before) (call : Call)
    (handover : Handover) :
    handover ∈ before.handovers (call.command logger) ↔
      (logger.logEvent = true ∧
        handover ∈ state.linesAt (before.injectInvocation logger call.invocation) logger
          (incomingRecord logger call.eventSite call.payload)) ∨
      ∃ evaluation, assess call.payload = .ok evaluation ∧
        handover ∈ state.linesAt (before.perform (call.command logger)) logger
          (outcomeRecord logger call.outcomeSite evaluation) := by
  have lines := evaluated_eq before logger call.eventSite call.outcomeSite call.invocation
    call.payload
  simp only [only.lines_at] at lines
  change handover ∈ before.evaluated logger call.eventSite call.outcomeSite call.invocation
    call.payload ↔ _
  rw [lines, List.mem_append]
  apply or_congr
  · cases logger.logEvent <;> simp
  · cases assess call.payload with
    | error fault => simp
    | ok evaluation =>
        simp only [Except.ok.injEq, exists_eq_left']
        rfl

/-- The records of a call: its event if that is logged, and its outcome if there is one. -/
def IsOfCall (logger : Logger) (call : Call) (record : Record) : Prop :=
  (logger.logEvent = true ∧ record = incomingRecord logger call.eventSite call.payload) ∨
    ∃ evaluation, assess call.payload = .ok evaluation ∧
      record = outcomeRecord logger call.outcomeSite evaluation

theorem OnlyEdits.line_of_call (only : OnlyEdits logger edits state before) {call : Call}
    {handover : Handover} (member : handover ∈ before.handovers (call.command logger)) :
    (logger.logEvent = true ∧
        handover.line = (Json.object (before.eventShown logger call)).compactText) ∨
      (∃ evaluation, assess call.payload = .ok evaluation ∧
        handover.line = (Json.object (before.outcomeShown logger call evaluation)).compactText) ∨
      ∃ record, IsOfCall logger call record ∧ state.ShownElsewhere logger record handover := by
  have injected := before.inject_invocation_only_edits logger call.invocation
  have evaluated := before.call_only_edits logger call
  rcases (only.mem_handovers_iff call handover).mp member with
    ⟨logs, received⟩ | ⟨evaluation, assessed, decided⟩
  · rcases (only.trans injected).line_of_mem received with shown | elsewhere
    · exact .inl ⟨logs, shown⟩
    · exact .inr (.inr ⟨_, .inl ⟨logs, rfl⟩, elsewhere⟩)
  · rcases (only.trans evaluated).line_of_mem decided with shown | elsewhere
    · exact .inr (.inl ⟨evaluation, assessed, shown⟩)
    · exact .inr (.inr ⟨_, .inr ⟨evaluation, assessed, rfl⟩, elsewhere⟩)

end Call

/-- What a call writes are the lines it hands over, in this order. Each is that of its event, of its
outcome, or of someone who shows other keys. The line of the event shows the rule of an earlier
call, the latest that bound one, and that of the outcome the rule of the call. So no line shows a
wrong rule if events are not logged, or if no rule or the same one was bound before. Else the line
of the event does, for all who hear it. -/
theorem lines_of_calls_show_their_rule_once_it_is_known (state : State) (logger : Logger)
    (registered : (state.registry logger.registry).isRegistered logger.service = true)
    (earlier : List Call) (call : Call) :
    let before := run state (earlier.map (Call.command logger))
    let handed := before.handovers (call.command logger)
    let stale := ((latestRule? earlier).map Json.string).or (logger.boundRule state)
    let own := (ruleNameOf call.payload).map Json.string
    Hands before handed (before.perform (call.command logger)) ∧
      (∀ handover ∈ handed,
        (logger.logEvent = true ∧
          handover.line = (Json.object (before.eventShown logger call)).compactText) ∨
        (∃ evaluation, assess call.payload = .ok evaluation ∧
          handover.line =
            (Json.object (before.outcomeShown logger call evaluation)).compactText) ∨
        ∃ record, IsOfCall logger call record ∧ state.ShownElsewhere logger record handover) ∧
      Dict.get? ruleNameKey (before.eventShown logger call) = stale ∧
      (∀ evaluation, assess call.payload = .ok evaluation →
        own.isSome = true ∧
          Dict.get? ruleNameKey (before.outcomeShown logger call evaluation) = own) ∧
      ((logger.logEvent = true → stale = none ∨ stale = own) →
        ∀ handover ∈ handed,
          (∃ fields, handover.line = (Json.object fields).compactText ∧
            ∀ rule, Dict.get? ruleNameKey fields = some rule → own = some rule) ∨
          ∃ record, IsOfCall logger call record ∧
            state.ShownElsewhere logger record handover) ∧
      (state.HeardWithKeys logger → logger.logEvent = true →
        ∃ handover ∈ handed,
          handover.line = (Json.object (before.eventShown logger call)).compactText) := by
  intro before handed stale own
  obtain ⟨edits, only⟩ := state.calls_only_edit logger earlier
  have calls : OnlyEdits logger edits state before := only
  have still : (before.registry logger.registry).isRegistered logger.service = true :=
    (calls.is_registered logger.registry logger.service).trans registered
  have event : Dict.get? ruleNameKey (before.eventShown logger call) = stale :=
    (rule_of_event still call).trans (bound_rule_after_calls registered earlier)
  have outcome : ∀ evaluation, assess call.payload = .ok evaluation →
      own.isSome = true ∧
        Dict.get? ruleNameKey (before.outcomeShown logger call evaluation) = own := by
    intro evaluation assessed
    obtain ⟨name, known, shown⟩ := rule_of_outcome still assessed
    have named : own = some (.string name) := congrArg (Option.map Json.string) known
    rw [named]
    exact ⟨rfl, shown⟩
  refine ⟨before.perform_hands rfl, fun handover => calls.line_of_call, event, outcome, ?_, ?_⟩
  · intro harmless handover member
    rcases calls.line_of_call member with ⟨logs, line⟩ | ⟨evaluation, assessed, line⟩ | elsewhere
    · refine .inl ⟨_, line, ?_⟩
      intro rule shown
      rw [event] at shown
      rcases harmless logs with nothing | same
      · rw [nothing] at shown
        cases shown
      · exact same.symm.trans shown
    · refine .inl ⟨_, line, ?_⟩
      intro rule shown
      exact (outcome evaluation assessed).2.symm.trans shown
    · exact .inr elsewhere
  · intro heard logs
    obtain ⟨handover, member, line⟩ := heard.line
      (rfl : (incomingRecord logger call.eventSite call.payload).level = .info)
      (before.injectInvocation logger call.invocation)
    exact ⟨handover, (calls.mem_handovers_iff call handover).mpr (.inl ⟨logs, member⟩), line⟩

/-- The second call finds the rule of the first one bound. The line of its event shows that, the
object of its outcome shows its own. -/
theorem an_outcome_shows_the_rule_of_its_call :
    let built : Blueprint := ⟨0, ⟨"rule", .info, .zero, true⟩, none, some 0⟩
    let state := run .warm [.openStream .reliable, .build built .least]
    let call := fun (rule : String) =>
      ({ eventSite := ⟨"rule.rs:59", ⟨0, 0⟩⟩
         outcomeSite := ⟨"rule.rs:96", ⟨1, 0⟩⟩
         invocation := ⟨"r-1", "arn", "rule", 128, none⟩
         payload := .object [("accountId", .string "1"), ("configRuleName", .string rule),
           ("invokingEvent", .string "\x7b\x7d"), ("resultToken", .string "t")] } : Call)
    let before := run state [(call "tags").command built.logger]
    let evaluation : Evaluation := ⟨⟨.ofAccount "1" [], ⟨.compliant, none⟩⟩, "t"⟩
    (state.registry 0).isRegistered "rule" = true ∧
      state.HeardWithKeys built.logger ∧
      assess (call "idle").payload = .ok evaluation ∧
      Hands before (before.handovers ((call "idle").command built.logger))
        (before.perform ((call "idle").command built.logger)) ∧
      (∃ handover ∈ before.handovers ((call "idle").command built.logger),
        handover.line =
          (Json.object (before.eventShown built.logger (call "idle"))).compactText) ∧
      Dict.get? "config_rule_name" (before.eventShown built.logger (call "idle")) =
        some (.string "tags") ∧
      Dict.get? "config_rule_name" (before.outcomeShown built.logger (call "idle") evaluation) =
        some (.string "idle") := by
  intro built state call before evaluation
  have registered : (state.registry 0).isRegistered "rule" = true := by decide +kernel
  have heard : state.HeardWithKeys built.logger :=
    { enabled := by decide +kernel
      hears := ⟨built.handler, by decide +kernel, rfl, rfl, rfl⟩ }
  have assessed : assess (call "idle").payload = .ok evaluation := by decide +kernel
  obtain ⟨hands, _, event, outcome, _, written⟩ :=
    lines_of_calls_show_their_rule_once_it_is_known state built.logger registered [call "tags"]
      (call "idle")
  exact ⟨registered, heard, assessed, hands, written heard rfl, event,
    (outcome evaluation assessed).2⟩

/-- Both calls fail at the missing event. The second one logs its payload, which tells the rule
`idle`, in a line that is said to be of the rule `tags`, and the stream takes it. -/
theorem an_event_is_logged_under_the_rule_of_the_call_before :
    let built : Blueprint := ⟨0, ⟨"rule", .info, .zero, true⟩, none, some 0⟩
    let call := fun (rule : String) =>
      ({ eventSite := ⟨"rule.rs:59", ⟨0, 0⟩⟩
         outcomeSite := ⟨"rule.rs:96", ⟨1, 0⟩⟩
         invocation := ⟨"r-1", "arn", "rule", 128, none⟩
         payload := .object [("configRuleName", .string rule), ("resultToken", .string "t")] } :
        Call)
    let before := run .warm [.openStream .reliable, .build built .least,
      (call "tags").command built.logger]
    let after := before.perform ((call "idle").command built.logger)
    let line := "\x7b\"cold_start\":false,\"config_rule_name\":\"tags\"," ++
      "\"event\":\x7b\"configRuleName\":\"idle\",\"resultToken\":\"t\"\x7d," ++
      "\"function_arn\":\"arn\",\"function_memory_size\":128," ++
      "\"function_name\":\"rule\",\"function_request_id\":\"r-1\"," ++
      "\"level\":\"INFO\",\"location\":\"rule.rs:59\",\"message\":\"incoming event\"," ++
      "\"service\":\"rule\",\"timestamp\":\"1970-01-01T00:00:00.000Z\"\x7d"
    before.Reachable ∧ ruleNameOf (call "idle").payload = some "idle" ∧
      (before.handovers ((call "idle").command built.logger)).map Handover.line = [line] ∧
      after.contents (.stream 0) =
        before.contents (.stream 0) ++ Text.utf8Bytes (line ++ "\n") := by
  intro built call before after line
  have handed : before.handovers ((call "idle").command built.logger) =
      [⟨.stream 0, line, "rule", .call⟩] := by decide +kernel
  have reliable : before.stream? (.stream 0) = some .reliable := by decide +kernel
  have hands : Hands before _ after := before.perform_hands rfl
  have written := hands.contents (before.call_only_edits built.logger (call "idle")).streams
    (.stream 0)
  refine ⟨⟨.warm, _, .inr rfl, rfl⟩, by decide +kernel, congrArg (List.map _) handed, ?_⟩
  rw [written, handed, accepted, reliable]
  simp [sentTo, Handover.bytes]

end State

end FunctionKit.Logging
