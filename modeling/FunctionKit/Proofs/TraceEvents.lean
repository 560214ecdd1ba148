import FunctionKit.Proofs.LogLines
import FunctionKit.Proofs.Transparency

/-!
# What becomes of an event

An event of other code is a record of the logger with the name of its target: it registers that
name and is delivered there as any record is, although its level is looked at before. Its message
is what is recorded as text under the message's key; of other values the last one under each name
is kept. So a message that is recorded as a flag or a number is not a message, and the line shows
none.
-/

namespace FunctionKit.Logging

set_option autoImplicit false

namespace TraceValue

/-- The text of a value that is recorded as text or by how it shows. -/
def asText? : TraceValue → Option String
  | .text value | .shown value => some value
  | _ => none

/-- A value as text, whatever it was recorded as. -/
def form : TraceValue → String
  | .text value | .shown value => value
  | value => value.toJson.compactText

end TraceValue

namespace TraceEvent

/-- The library's own target and those below it. -/
def Own (target : String) : Prop :=
  target = packageName ∨ ∃ rest, target = packageName ++ "::" ++ rest

def asMessage? (field : String × TraceValue) : Option String :=
  if field.1 = messageKey then field.2.asText? else none

def asExtra? (field : String × TraceValue) : Option (String × Json) :=
  if (asMessage? field).isSome then none else some (field.1, field.2.toJson)

/-- A record that says what an event says. -/
structure Carries (event : TraceEvent) (time : Timestamp) (record : Record) : Prop where
  level : record.level = match event.level with
    | .trace | .debug => .debug
    | .info => .info
    | .warn => .warning
    | .error => .error
  logger : record.logger = nameOfTarget event.target
  message : record.message = (event.fields.filterMap asMessage?).getLast?.getD ""
  at_line : ∀ file line, event.file = some file → event.line = some line →
    record.location = file ++ ":" ++ String.ofList (Text.digits line)
  in_module : event.file = none ∨ event.line = none →
    ∀ path, event.modulePath = some path → record.location = path
  at_target : event.file = none ∨ event.line = none →
    event.modulePath = none → record.location = event.target
  timestamp : record.timestamp = time
  extra : ∀ key, Dict.get? key record.extra =
    Dict.lastValue? key (event.fields.filterMap asExtra?)
  ordered : Dict.Ordered record.extra

theorem is_own_iff (target : String) : isOwn target = true ↔ Own target := by
  unfold isOwn Own startsWith
  rw [Bool.or_eq_true, decide_eq_true_eq, List.isPrefixOf_iff_prefix]
  apply or_congr Iff.rfl
  constructor
  · rintro ⟨rest, split⟩
    refine ⟨String.ofList rest, ?_⟩
    apply String.toList_injective
    simpa [String.toList_append] using split.symm
  · rintro ⟨rest, rfl⟩
    exact ⟨rest.toList, by simp [String.toList_append]⟩

/-! ## Fields -/

theorem visit_eq (visited : Visited) (field : String × TraceValue) :
    visit visited field =
      { message := (asMessage? field).getD visited.message
        extra := match asExtra? field with
          | some pair => Dict.insert pair.1 pair.2 visited.extra
          | none => visited.extra } := by
  obtain ⟨name, value⟩ := field
  by_cases key : name = messageKey
  · cases value <;> simp [visit, asMessage?, asExtra?, TraceValue.asText?, key]
  · cases value <;> simp [visit, asMessage?, asExtra?, TraceValue.toJson, key]

theorem visited_eq (event : TraceEvent) :
    event.visited =
      { message := (event.fields.filterMap asMessage?).getLast?.getD ""
        extra := Dict.ofPairs (event.fields.filterMap asExtra?) } := by
  unfold visited Dict.ofPairs
  -- from the end: the last field is visited after all others
  induction event.fields using List.reverseRecOn with
  | nil => rfl
  | append_singleton earlier last ih =>
      rw [List.foldl_append, ih, List.foldl_cons, List.foldl_nil, visit_eq, List.filterMap_append,
        List.filterMap_append, List.foldl_append]
      congr 1
      · cases spoken : asMessage? last with
        | none =>
            rw [List.filterMap_cons_none spoken, List.filterMap_nil, List.append_nil]
            rfl
        | some text =>
            rw [List.filterMap_cons_some spoken, List.filterMap_nil, List.getLast?_concat]
            rfl
      · cases kept : asExtra? last with
        | none =>
            rw [List.filterMap_cons_none kept]
            rfl
        | some pair =>
            rw [List.filterMap_cons_some kept]
            rfl

theorem record_carries (event : TraceEvent) (time : Timestamp) :
    event.Carries time (event.record time) := by
  have located : event.file = none ∨ event.line = none →
      event.location = event.modulePath.getD event.target := by
    intro absent
    unfold location
    split
    · rename_i file line hasFile hasLine
      rw [hasFile, hasLine] at absent
      simp at absent
    · rfl
  refine ⟨?_, rfl, ?_, ?_, ?_, ?_, rfl, ?_, ?_⟩
  · cases level : event.level <;> simp [record, TraceLevel.toLevel, level]
  · simp only [record, visited_eq]
  · intro file line hasFile hasLine
    simp [record, location, hasFile, hasLine]
  · intro absent path hasPath
    simp only [record, located absent, hasPath, Option.getD_some]
  · intro absent noPath
    simp only [record, located absent, noPath, Option.getD_none]
  · intro key
    simp only [record, visited_eq, Dict.get?_of_pairs_last]
  · simp only [record, visited_eq]
    exact Dict.ordered_of_pairs _

end TraceEvent

namespace State

/-! ## Dispatching -/

/-- A name is registered, and nothing changes of the entries that were there but the parents. -/
structure OnlyRegisters (id : Nat) (name : String) (before after : State) : Prop where
  registered : (after.registry id).isRegistered name = true
  kept : ∀ registry other entry, (before.registry registry).get? other = some entry →
    ∃ parent, (after.registry registry).get? other = some { entry with parent }
  added : ∀ registry other entry, (before.registry registry).get? other = none →
    (after.registry registry).get? other = some entry →
    registry = id ∧ other = name ∧ ∃ parent, entry = Entry.fresh name parent
  formatters : after.formatters = before.formatters
  streams : after.streams = before.streams
  coldStart : after.coldStart = before.coldStart

theorem register_only_registers {state : State} {id : Nat}
    (linked : (state.registry id).Linked) (name : String) :
    OnlyRegisters id name state (state.register id name) := by
  have others : ∀ registry, registry ≠ id →
      (state.register id name).registry registry = state.registry registry := by
    intro registry apart
    rw [register, registry_setRegistry, if_neg apart.symm]
  have here := state.registry_register id name
  refine ⟨?_, ?_, ?_, rfl, rfl, rfl⟩
  · rw [here]
    exact Registry.register_registers linked name
  · intro registry other entry found
    by_cases same : registry = id
    · subst same
      rw [here]
      cases known : (state.registry registry).isRegistered name with
      | true =>
          rw [Registry.register_registered _ name known]
          exact ⟨entry.parent, found⟩
      | false => exact Registry.entry_kept linked known found
    · rw [others registry same]
      exact ⟨entry.parent, found⟩
  · intro registry other entry missing found
    by_cases same : registry = id
    · subst same
      rw [here] at found
      cases known : (state.registry registry).isRegistered name with
      | true =>
          rw [Registry.register_registered _ name known, missing] at found
          cases found
      | false =>
          rw [Registry.get?_register other linked.ordered known, missing] at found
          by_cases new : other = name
          · rw [if_pos new] at found
            cases found
            exact ⟨rfl, new, _, rfl⟩
          · rw [if_neg new] at found
            cases found
    · rw [others registry same, missing] at found
      cases found

theorem OnlyRegisters.then_writes {id : Nat} {name : String} {before middle after : State}
    (registers : OnlyRegisters id name before middle) (writes : OnlyWrites middle after) :
    OnlyRegisters id name before after where
  registered := by
    rw [writes.registry]
    exact registers.registered
  kept := by
    intro registry
    rw [writes.registry]
    exact registers.kept registry
  added := by
    intro registry
    rw [writes.registry]
    exact registers.added registry
  formatters := writes.formatters.trans registers.formatters
  streams := writes.streams.trans registers.streams
  coldStart := writes.coldStart.trans registers.coldStart

/-- Looking at the level first costs no record: the delivery asks the same question again. -/
theorem dispatch_eq_deliver (state : State) (id : Nat) {event : TraceEvent} (time : Timestamp)
    (foreign : ¬TraceEvent.Own event.target) :
    state.dispatch id event time =
      (state.register id (nameOfTarget event.target)).deliver .event id (nameOfTarget event.target)
        (event.record time) := by
  have notOwn : ¬TraceEvent.isOwn event.target = true :=
    fun own => foreign ((TraceEvent.is_own_iff event.target).mp own)
  have level : (event.record time).level = event.level.toLevel := rfl
  unfold dispatch
  rw [if_neg notOwn]
  dsimp only
  split
  · rfl
  · rename_i disabled
    unfold deliver
    rw [level]
    exact (if_neg disabled).symm

/-- What is written does not depend on the occasion. -/
theorem contents_deliver_occasion (state : State) (first second : Occasion) (id : Nat)
    (name : String) (record : Record) (outlet : Outlet) :
    (state.deliver first id name record).contents outlet =
      (state.deliver second id name record).contents outlet := by
  rw [deliver_eq_handle_reached, deliver_eq_handle_reached, contents_handle_all,
    contents_handle_all]

/-- Events of the library itself change nothing at all. Any other event registers the name of its
target, at whatever level it is, and touches no entry besides. What it writes is what logging
through that name writes for a record that says what the event says; only reports made on the way
bear another occasion. -/
theorem events_are_logged_under_their_target (state : State) (reachable : state.Reachable)
    (id : Nat) (event : TraceEvent) (time : Timestamp) :
    let name := nameOfTarget event.target
    let registered := state.register id name
    let after := state.dispatch id event time
    (TraceEvent.Own event.target → after = state) ∧
      (¬TraceEvent.Own event.target →
        OnlyRegisters id name state after ∧
          ∃ record, event.Carries time record ∧
            after = registered.deliver .event id name record ∧
            ∀ occasion,
              (∀ registry, after.registry registry =
                (registered.deliver occasion id name record).registry registry) ∧
              ∀ outlet, after.contents outlet =
                (registered.deliver occasion id name record).contents outlet) := by
  intro name registered after
  constructor
  · intro own
    exact if_pos ((TraceEvent.is_own_iff event.target).mpr own)
  · intro foreign
    have delivered : after = registered.deliver .event id name (event.record time) :=
      state.dispatch_eq_deliver id time foreign
    have registers : OnlyRegisters id name state registered :=
      register_only_registers (reachable_linked reachable id) name
    have writes : ∀ occasion,
        OnlyWrites registered (registered.deliver occasion id name (event.record time)) :=
      fun occasion => registered.deliver_only_writes occasion id name _
    refine ⟨?_, event.record time, event.record_carries time, delivered, ?_⟩
    · rw [delivered]
      exact registers.then_writes (writes .event)
    · intro occasion
      constructor
      · intro registry
        rw [delivered, (writes .event).registry, (writes occasion).registry]
      · intro outlet
        rw [delivered]
        exact registered.contents_deliver_occasion .event occasion id name _ outlet

/-- `pool.worker` is not known when the event comes, and the event has no file. Of the two sizes the
later one is kept. -/
theorem an_event_for_an_unseen_name_is_logged :
    let plainStream : Handler := ⟨some (.stream 0), none, .notSet⟩
    let state := run .initial [.openStream .reliable, .register 0 "pool",
      .setLevel 0 "pool" .debug, .setHandlers 0 "pool" [plainStream]]
    let event : TraceEvent :=
      { target := "pool::worker"
        level := .trace
        fields := [("size", .whole 3), ("message", .text "ready"), ("size", .whole 4)]
        file := none
        line := some 7
        modulePath := some "pool::worker::conn" }
    let own : TraceEvent := { event with target := "powertools_lambda::logging::handler" }
    let registered := state.register 0 "pool.worker"
    let after := state.dispatch 0 event ⟨0, 0⟩
    state.Reachable ∧ (state.registry 0).isRegistered "pool.worker" = false ∧
      state.dispatch 0 own ⟨0, 0⟩ = state ∧ OnlyRegisters 0 "pool.worker" state after ∧
      (registered.registry 0).audience "pool.worker" = [plainStream] ∧
      ∃ record : Record, record.level = .debug ∧ record.message = "ready" ∧
        record.location = "pool::worker::conn" ∧
        Dict.get? "size" record.extra = some (.ofInt 4) ∧
        after.contents (.stream 0) =
          (registered.deliver .call 0 "pool.worker" record).contents (.stream 0) := by
  intro plainStream state event own registered after
  have reachable : state.Reachable := ⟨.initial, _, .inl rfl, rfl⟩
  have isOwn : TraceEvent.Own own.target := (TraceEvent.is_own_iff _).mp (by decide)
  have foreign : ¬TraceEvent.Own event.target :=
    fun claimed => absurd ((TraceEvent.is_own_iff _).mpr claimed) (by decide)
  have unchanged := (events_are_logged_under_their_target state reachable 0 own ⟨0, 0⟩).1 isOwn
  obtain ⟨registers, record, carries, _, logged⟩ :=
    (events_are_logged_under_their_target state reachable 0 event ⟨0, 0⟩).2 foreign
  have dotted : nameOfTarget event.target = "pool.worker" := by decide
  rw [dotted] at registers logged
  exact ⟨reachable, by decide, unchanged, registers, by decide, record, carries.level,
    carries.message, carries.in_module (.inl rfl) _ rfl, carries.extra "size",
    (logged .call).2 (.stream 0)⟩

end State

/-! ## Messages -/

theorem render_number_ne_nil (number : Number) : Json.renderNumber number ≠ [] := by
  have writtenOut : ∀ shown power, Binary64.writtenOut shown power ≠ [] := by
    intro shown power
    unfold Binary64.writtenOut
    dsimp only
    split_ifs <;> simp
  have scientific : ∀ shown power, Binary64.scientific Json.fractionLayout shown power ≠ [] := by
    intro shown power
    simp [Binary64.scientific]
  cases number with
  | whole value =>
      cases value with
      | ofNat n => exact Nat.toDigits_ne_nil
      | negSucc n => exact List.cons_ne_nil _ _
  | fractional value =>
      unfold Json.renderNumber Binary64.render
      dsimp only
      split_ifs <;> simp [writtenOut, scientific]

/-- A flag or a number shows as something. -/
theorem TraceValue.form_of_no_text {value : TraceValue} (noText : value.asText? = none) :
    value.form ≠ "" := by
  have shown : ∀ {json : Json}, Json.render json ≠ [] → json.compactText ≠ "" := by
    intro json filled empty
    apply filled
    have chars := congrArg String.toList empty
    rw [Json.compactText, String.toList_ofList] at chars
    exact chars
  cases value with
  | text | shown => cases noText
  | flag flag => cases flag <;> exact shown (List.cons_ne_nil _ _)
  | whole number => exact shown (render_number_ne_nil (.whole number))
  | fraction number =>
      apply shown
      unfold TraceValue.toJson Json.ofBinary64
      dsimp only
      split
      · exact render_number_ne_nil (.fractional number)
      · exact List.cons_ne_nil _ _

theorem TraceValue.form_of_text {value : TraceValue} {text : String}
    (spoken : value.asText? = some text) : value.form = text := by
  cases value with
  | text | shown =>
      cases spoken
      rfl
  | flag | whole | fraction => cases spoken

theorem TraceValue.text_is_form_iff (value : TraceValue) :
    value.asText?.getD "" = value.form ↔ value.asText?.isSome = true := by
  cases spoken : value.asText? with
  | none =>
      constructor
      · exact fun same => absurd same.symm (form_of_no_text spoken)
      · exact fun isText => Bool.noConfusion isText
  | some text => simp [form_of_text spoken]

namespace State

theorem message_of_sole_field {event : TraceEvent} {value : TraceValue}
    (sole : event.fields.filter (fun field => field.1 = TraceEvent.messageKey) =
      [(TraceEvent.messageKey, value)]) :
    (event.fields.filterMap TraceEvent.asMessage?).getLast?.getD "" = value.asText?.getD "" := by
  have messages : event.fields.filterMap TraceEvent.asMessage? =
      (event.fields.filter fun field => field.1 = TraceEvent.messageKey).filterMap fun field =>
        field.2.asText? := by
    rw [List.filterMap_filter]
    simp only [decide_eq_true_eq]
    rfl
  rw [messages, sole]
  cases spoken : value.asText? <;> simp [spoken]

/-- If an event has one field under the message's key and its logger records its level, the record
that is handed to the handlers has the text of that field as its message exactly if the field was
recorded as text or by how it shows, whatever the other fields are. A flag or a number leaves the
message empty. Structured and plain lines show the message of the record and nothing else for it. -/
theorem messages_recorded_as_text_are_shown (state : State) (id : Nat) (event : TraceEvent)
    (time : Timestamp) (foreign : ¬TraceEvent.Own event.target)
    (enabled : ((state.register id (nameOfTarget event.target)).registry id).isEnabled
      (nameOfTarget event.target) event.level.toLevel = true)
    (value : TraceValue)
    (sole : event.fields.filter (fun field => field.1 = TraceEvent.messageKey) =
      [(TraceEvent.messageKey, value)]) :
    let name := nameOfTarget event.target
    let registered := state.register id name
    ∃ record, event.Carries time record ∧
      state.dispatch id event time =
        ((registered.registry id).audience name).foldl (handle .event record) registered ∧
      (record.message = value.form ↔ value.asText?.isSome = true) ∧
      (value.asText? = none → record.message = "") ∧
      (∀ bound, ∃ shown, record.structuredLine bound = (Json.object shown).compactText ∧
        Dict.get? "message" shown = some (.string record.message)) ∧
      record.plainLine = record.level.name ++ ":" ++ name ++ ":" ++ record.message := by
  intro name registered
  have carries := event.record_carries time
  have message : (event.record time).message = value.asText?.getD "" := by
    rw [carries.message]
    exact message_of_sole_field sole
  have distinct := Dict.keys_nodup carries.ordered
  refine ⟨event.record time, carries, ?_, ?_, ?_, ?_, rfl⟩
  · rw [state.dispatch_eq_deliver id time foreign]
    unfold deliver
    exact if_pos enabled
  · rw [message]
    exact value.text_is_form_iff
  · intro noText
    rw [message, noText]
    rfl
  · intro bound
    refine ⟨(event.record time).toFields bound, rfl, ?_⟩
    rw [Record.get?_to_fields bound _ distinct]
    rfl

/-- Next to a number under another name the text of an error is the message. -/
theorem an_error_is_shown_as_the_message :
    let plainStream : Handler := ⟨some (.stream 0), none, .notSet⟩
    let state := run .initial [.openStream .reliable, .setHandlers 0 "" [plainStream]]
    let event : TraceEvent :=
      { target := "hyper::client"
        level := .error
        fields := [("retries", .whole 3), ("message", .shown "timed out"), ("fatal", .flag true)]
        file := some "client.rs"
        line := some 7
        modulePath := none }
    ∃ record : Record, record.message = "timed out" ∧
      record.plainLine = "ERROR:hyper.client:timed out" ∧
      state.dispatch 0 event ⟨0, 0⟩ =
        handle .event record (state.register 0 "hyper.client") plainStream ∧
      ∀ bound, ∃ shown, record.structuredLine bound = (Json.object shown).compactText ∧
        Dict.get? "message" shown = some (.string "timed out") := by
  intro plainStream state event
  have foreign : ¬TraceEvent.Own event.target :=
    fun claimed => absurd ((TraceEvent.is_own_iff _).mpr claimed) (by decide)
  obtain ⟨record, carries, handed, told, _, structured, plain⟩ :=
    messages_recorded_as_text_are_shown state 0 event ⟨0, 0⟩ foreign (by decide)
      (.shown "timed out") (by decide)
  have message : record.message = "timed out" := told.mpr rfl
  have dotted : nameOfTarget event.target = "hyper.client" := by decide
  have audience : ((state.register 0 "hyper.client").registry 0).audience "hyper.client" =
      [plainStream] := by decide
  rw [message] at structured plain
  rw [dotted] at handed plain
  rw [audience] at handed
  refine ⟨record, message, ?_, handed, structured⟩
  rw [plain, carries.level]
  rfl

/-- The flag under the message's key is nowhere in the line. -/
theorem a_flag_as_message_is_lost :
    let plainStream : Handler := ⟨some (.stream 0), none, .notSet⟩
    let state := run .initial [.openStream .reliable, .setHandlers 0 "" [plainStream]]
    let event : TraceEvent :=
      { target := "d"
        level := .error
        fields := [("message", .flag true)]
        file := none
        line := none
        modulePath := none }
    ¬TraceEvent.Own event.target ∧
      ((state.register 0 "d").registry 0).isEnabled "d" event.level.toLevel = true ∧
      event.fields.filter (fun field => field.1 = TraceEvent.messageKey) =
        [("message", .flag true)] ∧
      (TraceValue.flag true).form = "true" ∧
      (event.record ⟨0, 0⟩).message = "" ∧
      (event.record ⟨0, 0⟩).plainLine = "ERROR:d:" ∧
      (state.dispatch 0 event ⟨0, 0⟩).contents (.stream 0) = Text.utf8Bytes "ERROR:d:\n" := by
  intro plainStream state event
  have foreign : ¬TraceEvent.Own event.target :=
    fun claimed => absurd ((TraceEvent.is_own_iff _).mpr claimed) (by decide)
  exact ⟨foreign, by decide, by decide, by decide, rfl, by decide, by decide⟩

end State

end FunctionKit.Logging
