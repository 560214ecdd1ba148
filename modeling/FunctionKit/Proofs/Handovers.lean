import FunctionKit.Proofs.Runs

/-!
# Lines handed to outlets

All that a command does to outlets is to hand lines to them, one after the other. Which lines a run
hands over, and to which outlets, is told by the registries and the bound keys that it comes by.
-/

namespace FunctionKit.Logging

set_option autoImplicit false

open FunctionKit.ConfigRule

/-- A line for an outlet. It shows a record of the logger, and any fault of writing it is reported
on the occasion. -/
structure Handover where
  outlet : Outlet
  line : String
  logger : String
  occasion : Occasion
deriving DecidableEq

/-- The bytes of a handed line, with the line break that ends it. -/
def Handover.bytes (handover : Handover) : List UInt8 :=
  Text.utf8Bytes (handover.line ++ "\n")

namespace State

def hand (state : State) (handover : Handover) : State :=
  let offered := state.writeLine handover.outlet handover.line
  match offered.2 with
  | none => offered.1
  | some fault => offered.1.report handover.occasion (.writeFailed handover.logger fault)

def handAll (state : State) (handed : List Handover) : State :=
  handed.foldl hand state

/-! ## What is handed over -/

/-- What a handler hands over, if the record passes its level and it has an outlet. -/
def handover? (state : State) (occasion : Occasion) (record : Record) (handler : Handler) :
    Option Handover :=
  if record.level.passes handler.level then
    handler.outlet.map fun outlet =>
      { outlet, line := state.line handler.formatter record, logger := record.logger, occasion }
  else none

def delivered (state : State) (occasion : Occasion) (id : Nat) (name : String)
    (record : Record) : List Handover :=
  if (state.registry id).isEnabled name record.level then
    ((state.registry id).audience name).filterMap (state.handover? occasion record)
  else []

def dispatched (state : State) (id : Nat) (event : TraceEvent) (time : Timestamp) :
    List Handover :=
  if TraceEvent.isOwn event.target then []
  else
    (state.register id (nameOfTarget event.target)).delivered .event id
      (nameOfTarget event.target) (event.record time)

def logged (state : State) (logger : Logger) (site : CallSite) (level : Level) (message : String)
    (extra : Fields) : List Handover :=
  state.delivered .call logger.registry logger.name
    { level
      logger := logger.name
      message
      location := site.location
      timestamp := site.time
      extra }

def incoming (state : State) (logger : Logger) (site : CallSite)
    (event : Except Json.WriteError Json) : List Handover :=
  if logger.logEvent then
    let shown := match event with
      | .ok value => value
      | .error error => .string error.message
    state.logged logger site .info "incoming event" [("event", shown)]
  else []

def evaluated (state : State) (logger : Logger) (eventSite outcomeSite : CallSite)
    (invocation : Invocation) (payload : Json) : List Handover :=
  let injected := state.injectInvocation logger invocation
  injected.incoming logger eventSite (.ok payload) ++
    match identify payload with
    | .error _ => []
    | .ok identified =>
      match identified.assess with
      | .error _ => []
      | .ok evaluation =>
        ((injected.logIncoming logger eventSite (.ok payload)).appendKeys logger
          [("config_rule_name", .string identified.ruleName)]).logged logger outcomeSite .info
            evaluation.summary []

/-- What a command hands over. -/
def handovers (state : State) : Command → List Handover
  | .deliver id name record => state.delivered .call id name record
  | .dispatch id event time => state.dispatched id event time
  | .log logger site level message extra => state.logged logger site level message extra
  | .logException logger site message causes =>
    state.logged logger site .error message
      [("exception", .string (String.intercalate ": " causes))]
  | .logIncoming logger site event => state.incoming logger site event
  | .evaluate logger eventSite outcomeSite invocation payload =>
    state.evaluated logger eventSite outcomeSite invocation payload
  | _ => []

/-- What a run hands over, the earliest first. -/
def handed (state : State) : List Command → List Handover
  | [] => []
  | command :: rest => state.handovers command ++ (state.perform command).handed rest

/-! ## Deliveries hand over -/

theorem handover_some_iff {state : State} {occasion : Occasion} {record : Record}
    {handler : Handler} {handover : Handover} :
    state.handover? occasion record handler = some handover ↔
      record.level.passes handler.level = true ∧
        ∃ outlet, handler.outlet = some outlet ∧
          ⟨outlet, state.line handler.formatter record, record.logger, occasion⟩ = handover := by
  unfold handover?
  cases record.level.passes handler.level with
  | true => simp only [if_true, true_and, Option.map_eq_some_iff]
  | false => simp

theorem hand_only_writes (state : State) (handover : Handover) :
    OnlyWrites state (state.hand handover) := by
  have written := state.write_line_only_writes handover.outlet handover.line
  unfold hand
  dsimp only
  split
  · exact written
  · exact written.trans (report_only_writes _ _ _)

theorem hand_all_only_writes (state : State) (handed : List Handover) :
    OnlyWrites state (state.handAll handed) := by
  induction handed generalizing state with
  | nil => exact .refl state
  | cons handover rest ih => exact (state.hand_only_writes handover).trans (ih _)

theorem hand_all_append (state : State) (early late : List Handover) :
    state.handAll (early ++ late) = (state.handAll early).handAll late :=
  List.foldl_append

theorem handle_eq_hand (occasion : Occasion) (record : Record) (state : State)
    (handler : Handler) :
    handle occasion record state handler =
      state.handAll (state.handover? occasion record handler).toList := by
  unfold handle handover?
  cases record.level.passes handler.level with
  | false => rfl
  | true =>
      cases handler.outlet with
      | none => rfl
      | some outlet =>
          simp only [Bool.not_true, Bool.false_eq_true, if_false, if_true, Option.map_some,
            Option.toList_some, handAll, List.foldl_cons, List.foldl_nil, hand]
          cases state.writeLine outlet (state.line handler.formatter record) with
          | mk written fault => cases fault <;> rfl

theorem handover_of_same {before after : State} (registries : after.registries = before.registries)
    (formatters : after.formatters = before.formatters) (occasion : Occasion) (record : Record) :
    after.handover? occasion record = before.handover? occasion record := by
  funext handler
  unfold handover?
  rw [line_of_same registries formatters]

theorem handle_all_eq_hand_all (occasion : Occasion) (record : Record) (handlers : List Handler)
    (state : State) :
    handlers.foldl (handle occasion record) state =
      state.handAll (handlers.filterMap (state.handover? occasion record)) := by
  induction handlers generalizing state with
  | nil => rfl
  | cons handler rest ih =>
      have writes := handle_only_writes occasion record state handler
      have split : (handler :: rest).filterMap (state.handover? occasion record) =
          (state.handover? occasion record handler).toList ++
            rest.filterMap (state.handover? occasion record) := by
        cases held : state.handover? occasion record handler <;> simp [held]
      -- the lines of the other handlers stay as they are while this one writes
      rw [List.foldl_cons, ih, handover_of_same writes.registries writes.formatters,
        handle_eq_hand, split, hand_all_append]

theorem deliver_eq_hand_all (state : State) (occasion : Occasion) (id : Nat) (name : String)
    (record : Record) :
    state.deliver occasion id name record =
      state.handAll (state.delivered occasion id name record) := by
  unfold deliver delivered
  dsimp only
  split
  · exact handle_all_eq_hand_all occasion record _ state
  · rfl

/-- An event is only delivered where its level is enabled, and the delivery asks again. -/
theorem dispatch_eq_hand_all (state : State) (id : Nat) (event : TraceEvent) (time : Timestamp) :
    state.dispatch id event time =
      if TraceEvent.isOwn event.target then state
      else
        (state.register id (nameOfTarget event.target)).handAll
          (state.dispatched id event time) := by
  unfold dispatch dispatched
  split
  · rfl
  · rw [← deliver_eq_hand_all]
    dsimp only
    split
    · rfl
    · rename_i disabled
      have level : (event.record time).level = event.level.toLevel := rfl
      unfold deliver
      dsimp only
      rw [level, if_neg disabled]

theorem log_eq_hand_all (state : State) (logger : Logger) (site : CallSite) (level : Level)
    (message : String) (extra : Fields) :
    state.log logger site level message extra =
      state.handAll (state.logged logger site level message extra) :=
  state.deliver_eq_hand_all _ _ _ _

theorem log_incoming_eq_hand_all (state : State) (logger : Logger) (site : CallSite)
    (event : Except Json.WriteError Json) :
    state.logIncoming logger site event = state.handAll (state.incoming logger site event) := by
  unfold logIncoming incoming
  split
  · exact state.log_eq_hand_all _ _ _ _ _
  · rfl

/-! ## Reports -/

end State

def Diagnostic.isWriteFault : Diagnostic → Bool
  | .writeFailed _ _ => true
  | _ => false

def Report.isWriteFault (report : Report) : Bool :=
  report.diagnostic.isWriteFault

/-- Reports faults of writing without having written. -/
def Command.reportsFault : Command → Bool
  | .report diagnostic => diagnostic.isWriteFault
  | _ => false

namespace State

/-- The reports of faults of writing, the earliest first. -/
def writeFaults (state : State) : List Report :=
  state.reports.filter Report.isWriteFault

def otherReports (state : State) : List Report :=
  state.reports.filter fun report => !report.isWriteFault

theorem reports_of_report (state : State) (occasion : Occasion) (diagnostic : Diagnostic) :
    (state.report occasion diagnostic).reports = state.reports ++ [⟨occasion, diagnostic⟩] :=
  List.filterMap_append

/-! ## What comes of handing over -/

/-- Nothing is written and no fault reported. Streams may be opened. -/
structure Quiet (before after : State) : Prop where
  streams : ∃ opened, after.streams = before.streams ++ opened
  contents : ∀ outlet, after.contents outlet = before.contents outlet
  writeFaults : after.writeFaults = before.writeFaults

/-- A state comes of another by quiet changes and by handing over, in this order, some lines. -/
inductive Hands (start : State) : List Handover → State → Prop
  | start : Hands start [] start
  | quiet {handed : List Handover} {before after : State} (hands : Hands start handed before)
      (quiet : Quiet before after) : Hands start handed after
  | hand {handed : List Handover} {before : State} (hands : Hands start handed before)
      (next : Handover) : Hands start (handed ++ [next]) (before.hand next)

theorem quiet_of_same_journal {before after : State} (journal : after.journal = before.journal)
    (streams : after.streams = before.streams) : Quiet before after where
  streams := ⟨[], by rw [streams, List.append_nil]⟩
  contents := by
    intro outlet
    unfold contents
    rw [journal]
  writeFaults := by
    unfold writeFaults reports
    rw [journal]

theorem Quiet.trans {first second third : State} (left : Quiet first second)
    (right : Quiet second third) : Quiet first third where
  streams := by
    obtain ⟨early, opened⟩ := left.streams
    obtain ⟨late, more⟩ := right.streams
    exact ⟨early ++ late, by rw [more, opened, List.append_assoc]⟩
  contents := fun outlet => (right.contents outlet).trans (left.contents outlet)
  writeFaults := right.writeFaults.trans left.writeFaults

theorem report_quiet (state : State) {occasion : Occasion} {diagnostic : Diagnostic}
    (other : diagnostic.isWriteFault = false) :
    Quiet state (state.report occasion diagnostic) where
  streams := ⟨[], (List.append_nil _).symm⟩
  contents := fun outlet => state.contents_report occasion diagnostic outlet
  writeFaults := by
    unfold writeFaults
    rw [reports_of_report, List.filter_append]
    simp [Report.isWriteFault, other]

theorem open_stream_quiet (state : State) (stream : Stream) :
    Quiet state (state.openStream stream) where
  streams := ⟨[stream], rfl⟩
  contents := fun _ => rfl
  writeFaults := rfl

theorem copy_configuration_quiet (state : State) (id : Nat) (source : Logger)
    (options : CopyOptions) : Quiet state (state.copyConfiguration id source options) := by
  have configured : ∀ (names : List String) (handler : Handler) (level : Level) (start : State),
      Quiet start
        (names.foldl (fun current name => current.configureFrom id handler level name) start) := by
    intro names handler level
    induction names with
    | nil => exact fun start => quiet_of_same_journal rfl rfl
    | cons name rest ih =>
        intro start
        have changed : Quiet start (start.modifyEntry id name fun entry =>
            { entry with handlers := [handler], level, propagate := false }) :=
          quiet_of_same_journal rfl rfl
        exact (changed.trans (report_quiet _ rfl)).trans (ih _)
  unfold copyConfiguration
  split
  · exact report_quiet _ rfl
  · exact configured _ _ _ _

theorem build_quiet (state : State) (blueprint : Blueprint) (draw : Draw) :
    Quiet state (state.build blueprint draw) := by
  have prepared : Quiet state (state.prepare blueprint) := by
    unfold prepare
    dsimp only
    split <;> exact quiet_of_same_journal rfl rfl
  cases part : blueprint.child with
  | some child =>
      rw [build_child_eq state part]
      exact prepared.trans (quiet_of_same_journal rfl rfl)
  | none =>
      rw [build_service_eq state part]
      exact prepared.trans (quiet_of_same_journal rfl rfl)

theorem append_keys_quiet (state : State) (logger : Logger) (pairs : List (String × Json)) :
    Quiet state (state.appendKeys logger pairs) :=
  quiet_of_same_journal rfl rfl

theorem structure_keys_quiet (state : State) (logger : Logger) (keep : Bool)
    (pairs : List (String × Json)) : Quiet state (state.structureKeys logger keep pairs) := by
  cases keep with
  | true => exact quiet_of_same_journal rfl rfl
  | false => exact quiet_of_same_journal rfl rfl

namespace Hands

variable {start before after : State} {early late : List Handover}

theorem trans (left : Hands start early before) (right : Hands before late after) :
    Hands start (early ++ late) after := by
  induction right with
  | start =>
      rw [List.append_nil]
      exact left
  | quiet _ still ih => exact ih.quiet still
  | hand _ next ih =>
      rw [← List.append_assoc]
      exact ih.hand next

theorem of_quiet (still : Quiet before after) : Hands before [] after :=
  Hands.start.quiet still

theorem of_hand_all (state : State) (handed : List Handover) :
    Hands state handed (state.handAll handed) := by
  induction handed using List.reverseRecOn with
  | nil => exact .start
  | append_singleton early last ih =>
      rw [hand_all_append]
      exact ih.hand last

end Hands

theorem dispatch_hands (state : State) (id : Nat) (event : TraceEvent) (time : Timestamp) :
    Hands state (state.dispatched id event time) (state.dispatch id event time) := by
  rw [dispatch_eq_hand_all]
  split
  · rename_i own
    rw [dispatched, if_pos own]
    exact .start
  · have registered : Hands state [] (state.register id (nameOfTarget event.target)) :=
      .of_quiet (quiet_of_same_journal rfl rfl)
    exact registered.trans (.of_hand_all _ _)

theorem evaluate_hands (state : State) (logger : Logger) (eventSite outcomeSite : CallSite)
    (invocation : Invocation) (payload : Json) :
    Hands state (state.evaluated logger eventSite outcomeSite invocation payload)
      (state.evaluate logger eventSite outcomeSite invocation payload) := by
  have injected : Hands state [] (state.injectInvocation logger invocation) :=
    .of_quiet (quiet_of_same_journal rfl rfl)
  have received := injected.trans (.of_hand_all _
    ((state.injectInvocation logger invocation).incoming logger eventSite (.ok payload)))
  rw [← log_incoming_eq_hand_all, List.nil_append] at received
  unfold evaluate evaluated
  dsimp only
  cases identify payload with
  | error fault =>
      rw [List.append_nil]
      exact received
  | ok identified =>
      have named := received.quiet (append_keys_quiet _ logger
        [("config_rule_name", .string identified.ruleName)])
      dsimp only
      cases identified.assess with
      | error fault =>
          rw [List.append_nil]
          exact named
      | ok evaluation =>
          dsimp only
          rw [log_eq_hand_all]
          exact named.trans (.of_hand_all _ _)

theorem perform_hands (state : State) {command : Command} (own : command.reportsFault = false) :
    Hands state (state.handovers command) (state.perform command) := by
  have still : ∀ {after : State}, after.journal = state.journal → after.streams = state.streams →
      Hands state [] after :=
    fun journal streams => .of_quiet (quiet_of_same_journal journal streams)
  cases command with
  | register | setLevel | setPropagate | setHandlers | addHandler | addFormatter | appendKeys
  | removeKeys | clearKeys | injectInvocation | setServiceLevel => exact still rfl rfl
  | deliver id name record =>
      rw [perform, deliver_eq_hand_all]
      exact .of_hand_all _ _
  | dispatch id event time => exact state.dispatch_hands id event time
  | openStream stream => exact .of_quiet (state.open_stream_quiet stream)
  | report diagnostic => exact .of_quiet (state.report_quiet own)
  | build blueprint draw => exact .of_quiet (state.build_quiet blueprint draw)
  | log logger site level message extra =>
      rw [perform, log_eq_hand_all]
      exact .of_hand_all _ _
  | logException logger site message causes =>
      rw [perform, logException, log_eq_hand_all]
      exact .of_hand_all _ _
  | logIncoming logger site event =>
      rw [perform, log_incoming_eq_hand_all]
      exact .of_hand_all _ _
  | structureKeys logger keep pairs =>
      exact .of_quiet (state.structure_keys_quiet logger keep pairs)
  | copyConfiguration id source options =>
      exact .of_quiet (state.copy_configuration_quiet id source options)
  | evaluate logger eventSite outcomeSite invocation payload =>
      exact state.evaluate_hands logger eventSite outcomeSite invocation payload

end State

end FunctionKit.Logging
