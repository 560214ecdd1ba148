import FunctionKit.Proofs.FaultyStreams

/-!
# Faults stay with their streams

A run is compared with the same run over streams that take everything. Registries, bound keys and
all that is handed over are the same in both, so a fault costs its own stream some bytes and brings
one report of itself, and that is all it does.
-/

namespace FunctionKit.Logging

set_option autoImplicit false

open FunctionKit.ConfigRule

/-- The command with a stream that takes everything, if it opens one. -/
def Command.dependable : Command → Command
  | .openStream _ => .openStream .reliable
  | command => command

namespace State

/-- Two states that may differ in their streams, in what was written and in reports of faults. -/
structure Agree (first second : State) : Prop where
  registries : second.registries = first.registries
  formatters : second.formatters = first.formatters
  coldStart : second.coldStart = first.coldStart
  otherReports : second.otherReports = first.otherReports

theorem hand_all_agrees (state : State) (handed : List Handover) :
    Agree state (state.handAll handed) := by
  have writes := state.hand_all_only_writes handed
  refine ⟨writes.registries, writes.formatters, writes.coldStart, ?_⟩
  clear writes
  induction handed generalizing state with
  | nil => rfl
  | cons next rest ih => exact (ih (state.hand next)).trans (state.other_reports_of_hand next)

namespace Agree

variable {first second : State}

theorem refl (state : State) : Agree state state :=
  ⟨rfl, rfl, rfl, rfl⟩

theorem registry (agree : Agree first second) (id : Nat) :
    second.registry id = first.registry id :=
  registry_of_same agree.registries id

/-! ## Single steps -/

theorem set_registry (agree : Agree first second) (id : Nat) {left right : Registry}
    (same : right = left) : Agree (first.setRegistry id left) (second.setRegistry id right) where
  registries := by
    unfold setRegistry
    rw [agree.registries, same]
  formatters := agree.formatters
  coldStart := agree.coldStart
  otherReports := agree.otherReports

theorem register (agree : Agree first second) (id : Nat) (name : String) :
    Agree (first.register id name) (second.register id name) := by
  apply agree.set_registry
  rw [agree.registry]

theorem modify_entry (agree : Agree first second) (id : Nat) (name : String)
    (change : Entry → Entry) :
    Agree (first.modifyEntry id name change) (second.modifyEntry id name change) := by
  apply agree.set_registry
  rw [agree.registry]

theorem report (agree : Agree first second) (occasion : Occasion) (diagnostic : Diagnostic) :
    Agree (first.report occasion diagnostic) (second.report occasion diagnostic) where
  registries := agree.registries
  formatters := agree.formatters
  coldStart := agree.coldStart
  otherReports := by
    unfold State.otherReports
    rw [reports_of_report, reports_of_report, List.filter_append, List.filter_append]
    exact congrArg (· ++ _) agree.otherReports

theorem hand_all (agree : Agree first second) (left right : List Handover) :
    Agree (first.handAll left) (second.handAll right) := by
  have early := first.hand_all_agrees left
  have late := second.hand_all_agrees right
  exact ⟨late.registries.trans (agree.registries.trans early.registries.symm),
    late.formatters.trans (agree.formatters.trans early.formatters.symm),
    late.coldStart.trans (agree.coldStart.trans early.coldStart.symm),
    late.otherReports.trans (agree.otherReports.trans early.otherReports.symm)⟩

theorem structure_keys (agree : Agree first second) (logger : Logger) (keep : Bool)
    (pairs : List (String × Json)) :
    Agree (first.structureKeys logger keep pairs) (second.structureKeys logger keep pairs) := by
  cases keep with
  | true => exact agree.modify_entry _ _ _
  | false => exact (agree.modify_entry _ _ _).modify_entry _ _ _

/-- The first invocation of a process starts cold in both. -/
theorem inject_invocation (agree : Agree first second) (logger : Logger)
    (invocation : Invocation) :
    Agree (first.injectInvocation logger invocation)
      (second.injectInvocation logger invocation) := by
  have served : Agree { first with coldStart := false } { second with coldStart := false } :=
    ⟨agree.registries, agree.formatters, rfl, agree.otherReports⟩
  unfold injectInvocation
  rw [agree.coldStart]
  exact served.modify_entry _ _ _

theorem build (agree : Agree first second) (blueprint : Blueprint) (draw : Draw) :
    Agree (first.build blueprint draw) (second.build blueprint draw) := by
  have prepared : Agree (first.prepare blueprint) (second.prepare blueprint) := by
    have registered := agree.register blueprint.registry blueprint.settings.service
    unfold prepare
    dsimp only
    split
    · exact registered.modify_entry _ _ _
    · exact registered
  cases part : blueprint.child with
  | some child =>
      rw [build_child_eq first part, build_child_eq second part]
      exact prepared.register _ _
  | none =>
      rw [build_service_eq first part, build_service_eq second part]
      exact prepared.modify_entry _ _ _

theorem copy_configuration (agree : Agree first second) (id : Nat) (source : Logger)
    (options : CopyOptions) :
    Agree (first.copyConfiguration id source options)
      (second.copyConfiguration id source options) := by
  have configured : ∀ (names : List String) (handler : Handler) (level : Level)
      {left right : State}, Agree left right →
      Agree (names.foldl (fun current name => current.configureFrom id handler level name) left)
        (names.foldl (fun current name => current.configureFrom id handler level name) right) := by
    intro names handler level
    induction names with
    | nil => exact fun agree => agree
    | cons name rest ih => exact fun agree => ih ((agree.modify_entry id name _).report _ _)
  have handler : source.handler? second = source.handler? first := by
    unfold Logger.handler?
    rw [agree.registry]
  have level : source.level second = source.level first := by
    unfold Logger.level
    rw [agree.registry]
  unfold copyConfiguration
  rw [handler]
  cases source.handler? first with
  | none => exact agree.report _ _
  | some handler =>
      dsimp only
      rw [level, agree.registry]
      exact configured _ _ _ agree

/-! ## What is handed over -/

theorem delivered (agree : Agree first second) (occasion : Occasion) (id : Nat) (name : String)
    (record : Record) :
    second.delivered occasion id name record = first.delivered occasion id name record := by
  unfold State.delivered
  rw [agree.registry, handover_of_same agree.registries agree.formatters]

theorem dispatched (agree : Agree first second) (id : Nat) (event : TraceEvent)
    (time : Timestamp) : second.dispatched id event time = first.dispatched id event time := by
  unfold State.dispatched
  rw [(agree.register id (nameOfTarget event.target)).delivered]

theorem incoming (agree : Agree first second) (logger : Logger) (site : CallSite)
    (event : Except Json.WriteError Json) :
    second.incoming logger site event = first.incoming logger site event := by
  unfold State.incoming logged
  rw [agree.delivered]

theorem log_incoming (agree : Agree first second) (logger : Logger) (site : CallSite)
    (event : Except Json.WriteError Json) :
    Agree (first.logIncoming logger site event) (second.logIncoming logger site event) := by
  rw [log_incoming_eq_hand_all, log_incoming_eq_hand_all]
  exact agree.hand_all _ _

theorem evaluated (agree : Agree first second) (logger : Logger) (eventSite outcomeSite : CallSite)
    (invocation : Invocation) (payload : Json) :
    second.evaluated logger eventSite outcomeSite invocation payload =
      first.evaluated logger eventSite outcomeSite invocation payload := by
  have injected := agree.inject_invocation logger invocation
  have received := injected.log_incoming logger eventSite (.ok payload)
  unfold State.evaluated
  dsimp only
  rw [injected.incoming]
  congr 1
  cases identify payload with
  | error fault => rfl
  | ok identified =>
      dsimp only
      cases identified.assess with
      | error fault => rfl
      | ok evaluation => exact (received.modify_entry _ _ _).delivered _ _ _ _

theorem evaluate (agree : Agree first second) (logger : Logger) (eventSite outcomeSite : CallSite)
    (invocation : Invocation) (payload : Json) :
    Agree (first.evaluate logger eventSite outcomeSite invocation payload)
      (second.evaluate logger eventSite outcomeSite invocation payload) := by
  have received :=
    (agree.inject_invocation logger invocation).log_incoming logger eventSite (.ok payload)
  unfold State.evaluate
  dsimp only
  cases identify payload with
  | error fault => exact received
  | ok identified =>
      have named := received.modify_entry logger.registry logger.service fun entry =>
        { entry with boundKeys :=
          BoundKeys.append [("config_rule_name", .string identified.ruleName)] entry.boundKeys }
      dsimp only
      cases identified.assess with
      | error fault => exact named
      | ok evaluation =>
          dsimp only
          rw [log_eq_hand_all, log_eq_hand_all]
          exact named.hand_all _ _

theorem deliver (agree : Agree first second) (occasion : Occasion) (id : Nat) (name : String)
    (record : Record) :
    Agree (first.deliver occasion id name record) (second.deliver occasion id name record) := by
  rw [deliver_eq_hand_all, deliver_eq_hand_all]
  exact agree.hand_all _ _

theorem dispatch (agree : Agree first second) (id : Nat) (event : TraceEvent)
    (time : Timestamp) : Agree (first.dispatch id event time) (second.dispatch id event time) := by
  rw [dispatch_eq_hand_all, dispatch_eq_hand_all]
  split
  · exact agree
  · exact (agree.register _ _).hand_all _ _

theorem handovers (agree : Agree first second) (command : Command) :
    second.handovers command.dependable = first.handovers command := by
  cases command with
  | deliver id name record => exact agree.delivered _ _ _ _
  | dispatch id event time => exact agree.dispatched id event time
  | log | logException => exact agree.delivered _ _ _ _
  | logIncoming logger site event => exact agree.incoming logger site event
  | evaluate logger eventSite outcomeSite invocation payload =>
      exact agree.evaluated logger eventSite outcomeSite invocation payload
  | register | setLevel | setPropagate | setHandlers | addHandler | openStream | addFormatter
  | report | build | appendKeys | removeKeys | clearKeys | structureKeys | injectInvocation
  | setServiceLevel | copyConfiguration => rfl

theorem perform (agree : Agree first second) (command : Command) :
    Agree (first.perform command) (second.perform command.dependable) := by
  cases command with
  | register id name => exact agree.register id name
  | setLevel | setPropagate | setHandlers | addHandler | appendKeys | removeKeys | clearKeys
  | setServiceLevel => exact agree.modify_entry _ _ _
  | deliver id name record => exact agree.deliver _ _ _ _
  | dispatch id event time => exact agree.dispatch id event time
  | openStream stream =>
      exact ⟨agree.registries, agree.formatters, agree.coldStart, agree.otherReports⟩
  | addFormatter service =>
      have formatters := congrArg (· ++ [BoundKeys.initial service]) agree.formatters
      exact ⟨agree.registries, formatters, agree.coldStart, agree.otherReports⟩
  | report diagnostic => exact agree.report .call diagnostic
  | build blueprint draw => exact agree.build blueprint draw
  | log | logException => exact agree.deliver _ _ _ _
  | logIncoming logger site event => exact agree.log_incoming logger site event
  | structureKeys logger keep pairs => exact agree.structure_keys logger keep pairs
  | injectInvocation logger invocation => exact agree.inject_invocation logger invocation
  | copyConfiguration id source options => exact agree.copy_configuration id source options
  | evaluate logger eventSite outcomeSite invocation payload =>
      exact agree.evaluate logger eventSite outcomeSite invocation payload

/-- Along whole runs the two states agree, and the same is handed over. -/
theorem run (agree : Agree first second) (commands : List Command) :
    Agree (State.run first commands) (State.run second (commands.map Command.dependable)) ∧
      second.handed (commands.map Command.dependable) = first.handed commands := by
  induction commands generalizing first second with
  | nil => exact ⟨agree, rfl⟩
  | cons command rest ih =>
      obtain ⟨later, handed⟩ := ih (agree.perform command)
      refine ⟨later, ?_⟩
      rw [List.map_cons, State.handed, State.handed, agree.handovers, handed]

end Agree

/-! ## Streams that take everything -/

theorem possible_with_dependable (commands : List Command) (opened : Nat)
    (possible : Command.ArePossible opened commands) :
    Command.ArePossible opened (commands.map Command.dependable) := by
  induction commands generalizing opened with
  | nil => trivial
  | cons command rest ih =>
      obtain ⟨here, later⟩ := possible
      have opens : command.dependable.opens.length = command.opens.length := by
        cases command <;> rfl
      have alike : command.dependable.IsPossible opened := by
        cases command <;> exact here
      refine ⟨alike, ?_⟩
      rw [opens]
      exact ih _ later

theorem dependable_streams_are_reliable (commands : List Command) {state : State}
    (reliable : ∀ stream ∈ state.streams, stream = .reliable) :
    ∀ stream ∈ (run state (commands.map Command.dependable)).streams, stream = .reliable := by
  induction commands generalizing state with
  | nil => exact reliable
  | cons command rest ih =>
      apply ih
      rw [streams_of_perform]
      intro stream member
      rcases List.mem_append.mp member with old | new
      · exact reliable stream old
      · cases command with
        | openStream => exact List.mem_singleton.mp new
        | register | setLevel | setPropagate | setHandlers | addHandler | deliver | dispatch
        | addFormatter | report | build | log | logException | logIncoming | appendKeys
        | removeKeys | clearKeys | structureKeys | injectInvocation | setServiceLevel
        | copyConfiguration | evaluate => exact absurd new List.not_mem_nil

theorem stream_of_reliable {state : State} (reliable : ∀ stream ∈ state.streams, stream = .reliable)
    (outlet : Outlet) : state.stream? outlet = none ∨ state.stream? outlet = some .reliable := by
  cases held : state.stream? outlet with
  | none => exact Or.inl rfl
  | some stream =>
      cases outlet with
      | standardOutput => cases held
      | stream id => rw [reliable stream (List.mem_of_getElem? held)]; exact Or.inr rfl

theorem no_line_faults {streams : Outlet → Option Stream}
    (reliable : ∀ outlet, streams outlet = none ∨ streams outlet = some .reliable)
    (handed before : List Handover) : lineFaults streams before handed = [] := by
  induction handed generalizing before with
  | nil => rfl
  | cons next rest ih =>
      rw [lineFaults, ih]
      rcases reliable next.outlet with none | some
      · rw [none]
        rfl
      · rw [some]
        rfl

end State

/-! ## What is heard -/

namespace Listener

theorem heard_sublist (listener : Listener) (reports earlier : List Report) :
    (listener.heardAfter earlier reports).Sublist reports := by
  induction reports generalizing earlier with
  | nil => exact .slnil
  | cons next rest ih =>
      unfold heardAfter
      dsimp only
      split
      · exact (ih _).cons_cons next
      · exact (ih _).cons next

theorem heard_calls {listener : Listener} (hearing : listener.HearsCalls)
    (reports earlier : List Report) :
    (listener.heardAfter earlier reports).filter (fun report => report.occasion = .call) =
      reports.filter fun report => report.occasion = .call := by
  induction reports generalizing earlier with
  | nil => rfl
  | cons next rest ih =>
      unfold heardAfter
      dsimp only
      split
      · rw [List.filter_cons, List.filter_cons, ih]
      · rename_i unheard
        -- what is not heard was not reported in a call
        have nested : ¬next.occasion = .call := fun inCall => unheard (hearing _ next inCall)
        rw [ih, List.filter_cons_of_neg (by simpa using nested)]

end Listener

namespace State

theorem severity_of_write_faults (state : State) :
    ∀ report ∈ state.writeFaults, report.diagnostic.severity = "WARN" := by
  intro report member
  have isFault := (List.mem_filter.mp member).2
  obtain ⟨occasion, diagnostic⟩ := report
  cases diagnostic with
  | writeFailed => rfl
  | levelIgnored | sampleRateIgnored | nothingToCopy | reconfigured => cases isFault

theorem heard_of_hears_calls {listener : Listener} (hearing : listener.HearsCalls)
    (state : State) :
    ((state.heard listener).filter Report.isWriteFault).filter
        (fun report => report.occasion = .call) =
      state.writeFaults.filter fun report => report.occasion = .call := by
  rw [List.filter_comm, heard, Listener.heard_calls hearing, List.filter_comm]
  rfl

/-! ## Runs -/

theorem fresh_is_empty {start : State} (fresh : start = initial ∨ start = warm) :
    (∀ id, start.registry id = .empty) ∧ start.streams = [] ∧ start.journal = [] := by
  rcases fresh with new | used
  · rw [new]
    exact ⟨fun _ => rfl, rfl, rfl⟩
  · rw [used]
    exact ⟨fun _ => rfl, rfl, rfl⟩

theorem fresh_tally {start : State} (fresh : start = initial ∨ start = warm)
    {commands : List Command} (possible : Command.ArePossible 0 commands) :
    Tally (start.handed commands) (run start commands) := by
  obtain ⟨registries, streams, journal⟩ := fresh_is_empty fresh
  have counted : Command.ArePossible start.streams.length commands := by
    rw [streams]
    exact possible
  exact Tally.run commands (open_only_of_empty registries) counted (tally_of_empty_journal journal)

theorem held_of_unlimited {stream : Option Stream} (sent : List UInt8)
    (unlimited : ∀ limit fault, stream ≠ some (.limited limit fault)) :
    heldOf stream sent = sent := by
  cases stream with
  | none => rfl
  | some shape =>
      cases shape with
      | limited limit fault => exact absurd rfl (unlimited limit fault)
      | reliable => rfl
      | unflushable fault => rfl

/-- The same run over streams that take everything comes to the same registries, bound keys and
other reports, and hands over the same lines. A limited stream holds what its limit allows of all
that was sent to it, any other outlet all of it. Each fault is reported once, and nothing else is
reported as one. Whoever hears the reports that are made in calls hears one for each fault that is
met outside of dispatches, and no listener hears of a fault that was not met. -/
theorem faults_stay_with_their_streams (start : State) (fresh : start = initial ∨ start = warm)
    (commands : List Command) (possible : Command.ArePossible 0 commands) :
    let state := run start commands
    let sound := run start (commands.map Command.dependable)
    let handed := start.handed commands
    let faults := lineFaults state.stream? [] handed
    Agree state sound ∧
      start.handed (commands.map Command.dependable) = handed ∧
      (∀ outlet, sound.contents outlet = sentTo outlet handed) ∧
      sound.writeFaults = [] ∧
      (∀ outlet limit fault, state.stream? outlet = some (.limited limit fault) →
        state.contents outlet = (sentTo outlet handed).take limit) ∧
      (∀ outlet, (∀ limit fault, state.stream? outlet ≠ some (.limited limit fault)) →
        state.contents outlet = sound.contents outlet) ∧
      state.writeFaults = faults.map LineFault.report ∧
      (∀ report ∈ state.writeFaults, report.diagnostic.severity = "WARN") ∧
      ∀ listener : Listener,
        let heard := (state.heard listener).filter Report.isWriteFault
        heard.Sublist (faults.map LineFault.report) ∧
          (listener.HearsCalls →
            heard.filter (fun report => report.occasion = .call) =
              (faults.filter fun fault => fault.handover.occasion = .call).map
                LineFault.report) := by
  intro state sound handed faults
  obtain ⟨agree, sameHanded⟩ := (Agree.refl start).run commands
  have tally := fresh_tally fresh possible
  have soundTally := fresh_tally fresh (possible_with_dependable commands 0 possible)
  rw [sameHanded] at soundTally
  have reliable : ∀ outlet,
      sound.stream? outlet = none ∨ sound.stream? outlet = some .reliable := by
    apply stream_of_reliable
    apply dependable_streams_are_reliable
    rw [(fresh_is_empty fresh).2.1]
    exact fun _ member => absurd member List.not_mem_nil
  have soundContents : ∀ outlet, sound.contents outlet = sentTo outlet handed := by
    intro outlet
    rw [soundTally.contents]
    apply held_of_unlimited
    intro limit fault limited
    rcases reliable outlet with none | some
    · rw [none] at limited
      cases limited
    · rw [some] at limited
      cases limited
  refine ⟨agree, sameHanded, soundContents, ?_, ?_, ?_, tally.writeFaults,
    severity_of_write_faults state, ?_⟩
  · rw [soundTally.writeFaults, no_line_faults reliable]
    rfl
  · intro outlet limit fault limited
    rw [tally.contents, limited]
    rfl
  · intro outlet unlimited
    rw [soundContents, tally.contents]
    exact held_of_unlimited _ unlimited
  · intro listener heard
    constructor
    · rw [← tally.writeFaults]
      exact (Listener.heard_sublist listener state.reports []).filter _
    · intro hearing
      rw [heard_of_hears_calls hearing, tally.writeFaults, List.filter_map]
      rfl

/-- The second line is cut in a call, the third is lost in a dispatch. Both are reported, and the
handler behind the limited one gets all three lines. Who hears what is reported in calls hears of
the second line. -/
theorem a_cut_line_is_reported_and_costs_no_other :
    let limited : Handler := ⟨some (.stream 0), none, .notSet⟩
    let whole : Handler := ⟨some (.stream 1), none, .notSet⟩
    let record : Record := ⟨.error, "", "a", "app.rs:7", ⟨0, 0⟩, []⟩
    let event : TraceEvent := ⟨"lib", .error, [("message", .text "e")], none, none, none⟩
    let commands : List Command := [.openStream (.limited 12 "full"), .openStream .reliable,
      .setHandlers 0 "" [limited, whole], .deliver 0 "" record, .deliver 0 "" record,
      .dispatch 0 event ⟨0, 0⟩]
    let state := run initial commands
    Command.ArePossible 0 commands ∧
      state.contents (.stream 0) = Text.utf8Bytes "ERROR::a\nERR" ∧
      state.contents (.stream 1) = Text.utf8Bytes "ERROR::a\nERROR::a\nERROR:lib:e\n" ∧
      state.writeFaults =
        [⟨.call, .writeFailed "" "full"⟩, ⟨.event, .writeFailed "lib" "full"⟩] ∧
      Listener.ofCalls.HearsCalls ∧
      ((state.heard .ofCalls).filter Report.isWriteFault).filter
        (fun report => report.occasion = .call) = [⟨.call, .writeFailed "" "full"⟩] := by
  intro limited whole record event commands state
  have possible : Command.ArePossible 0 commands := by
    refine ⟨trivial, trivial, ?_, trivial, trivial, trivial, trivial⟩
    intro handler member outlet held id same
    rcases List.mem_cons.mp member with first | second
    · rw [first] at held
      cases held
      cases same
      decide
    · rw [List.mem_singleton.mp second] at held
      cases held
      cases same
      decide
  have limitedStream : state.stream? (.stream 0) = some (.limited 12 "full") := by decide
  have reliableStream : state.stream? (.stream 1) = some .reliable := by decide
  have hearing : Listener.ofCalls.HearsCalls := fun _ _ inCall => decide_eq_true inCall
  obtain ⟨_, _, soundContents, _, cut, uncut, reported, _, told⟩ :=
    faults_stay_with_their_streams initial (Or.inl rfl) commands possible
  refine ⟨possible, ?_, ?_, ?_, hearing, ?_⟩
  · rw [cut (.stream 0) 12 "full" limitedStream]
    decide
  · rw [uncut (.stream 1) (by rw [reliableStream]; simp), soundContents]
    decide
  · rw [reported]
    decide
  · rw [(told .ofCalls).2 hearing]
    decide

end State

end FunctionKit.Logging
