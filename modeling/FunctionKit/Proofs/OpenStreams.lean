import FunctionKit.Proofs.Handovers
import FunctionKit.Proofs.Routes

/-!
# Open streams

A program makes handlers only for streams that it has opened. However handlers are then set, copied
and passed by records, every line goes to an open stream.
-/

namespace FunctionKit.Logging

set_option autoImplicit false

def Outlet.IsOpen (opened : Nat) (outlet : Outlet) : Prop :=
  ∀ id, outlet = .stream id → id < opened

def Handler.IsOpen (opened : Nat) (handler : Handler) : Prop :=
  ∀ outlet, handler.outlet = some outlet → outlet.IsOpen opened

namespace Command

/-- What a program can do while some streams are open: it makes handlers for these alone, and leaves
reports of faults to the writing of lines. -/
def IsPossible (opened : Nat) : Command → Prop
  | .setHandlers _ _ handlers => ∀ handler ∈ handlers, handler.IsOpen opened
  | .addHandler _ _ handler => handler.IsOpen opened
  | .build blueprint _ => blueprint.handler.IsOpen opened
  | .report diagnostic => diagnostic.isWriteFault = false
  | _ => True

def opens : Command → List Stream
  | .openStream stream => [stream]
  | _ => []

/-- The commands of a run are possible, each with the streams that are open by then. -/
def ArePossible : Nat → List Command → Prop
  | _, [] => True
  | opened, command :: rest =>
    command.IsPossible opened ∧ ArePossible (opened + command.opens.length) rest

theorem IsPossible.reports_no_fault {opened : Nat} {command : Command}
    (possible : command.IsPossible opened) : command.reportsFault = false := by
  cases command with
  | report diagnostic => exact possible
  | register | setLevel | setPropagate | setHandlers | addHandler | deliver | dispatch | openStream
  | addFormatter | build | log | logException | logIncoming | appendKeys | removeKeys | clearKeys
  | structureKeys | injectInvocation | setServiceLevel | copyConfiguration | evaluate => rfl

end Command

/-! ## Handlers in registries -/

/-- Something holds of every handler of every entry. -/
def Registry.AllHandlers (holds : Handler → Prop) (registry : Registry) : Prop :=
  ∀ name, ∀ handler ∈ registry.handlersOf name, holds handler

/-- A change that brings no handler for which something does not hold. -/
def KeepsHandlers (holds : Handler → Prop) (name : String) (change : Entry → Entry) : Prop :=
  KeepsParent name change ∧
    ∀ entry, (∀ handler ∈ entry.handlers, holds handler) →
      ∀ handler ∈ (change entry).handlers, holds handler

section Registries

variable {holds : Handler → Prop} {registry : Registry}

theorem Registry.AllHandlers.of_get? (all : registry.AllHandlers holds) {name : String}
    {entry : Entry} (found : registry.get? name = some entry) :
    ∀ handler ∈ entry.handlers, holds handler := by
  have own := all name
  rw [handlersOf, found] at own
  exact own

theorem Registry.AllHandlers.modify (all : registry.AllHandlers holds) (name : String)
    {change : Entry → Entry} (keeps : KeepsHandlers holds name change) :
    (registry.modify name change).AllHandlers holds := by
  intro other
  unfold handlersOf
  rw [get?_modify]
  cases found : registry.get? other with
  | none => split <;> exact fun _ member => absurd member List.not_mem_nil
  | some entry =>
      have own := all.of_get? found
      split
      · exact keeps.2 entry own
      · exact own

theorem Registry.AllHandlers.register (all : registry.AllHandlers holds)
    (linked : registry.Linked) (name : String) : (registry.register name).AllHandlers holds := by
  intro other
  rw [handlers_of_route, route_register linked, ← handlers_of_route]
  exact all other

theorem Registry.Grows.all_handlers {start : Registry}
    (grows : start.Grows (KeepsHandlers holds) registry) (linked : start.Linked)
    (all : start.AllHandlers holds) : registry.AllHandlers holds := by
  induction grows with
  | same => exact all
  | registered name before ih =>
      exact ih.register ((before.mono fun _ _ keeps => keeps.1).linked linked) name
  | modified name change keeps _ ih => exact ih.modify name keeps

theorem Registry.mem_climb {bound : Nat} {name : String} {place : String × Entry}
    (member : place ∈ registry.climb bound name) : registry.get? place.1 = some place.2 := by
  induction bound generalizing name with
  | zero => exact absurd member List.not_mem_nil
  | succ bound ih =>
      unfold climb at member
      cases found : registry.get? name with
      | none =>
          rw [found] at member
          exact absurd member List.not_mem_nil
      | some entry =>
          rw [found] at member
          rcases List.mem_cons.mp member with here | above
          · rw [here]
            exact found
          · cases parent : entry.parent with
            | none =>
                rw [parent] at above
                exact absurd above List.not_mem_nil
            | some upper =>
                rw [parent] at above
                exact ih above

theorem Registry.AllHandlers.audience (all : registry.AllHandlers holds) (name : String) :
    ∀ handler ∈ registry.audience name, holds handler := by
  have upwards : ∀ places : List (String × Entry),
      (∀ place ∈ places, registry.get? place.1 = some place.2) →
      ∀ handler ∈ handlersUpwards places, holds handler := by
    intro places
    induction places with
    | nil => exact fun _ _ member => absurd member List.not_mem_nil
    | cons place above ih =>
        intro found handler member
        rw [handlersUpwards] at member
        rcases List.mem_append.mp member with own | further
        · exact all.of_get? (found place List.mem_cons_self) handler own
        · split at further
          · exact ih (fun other inside => found other (List.mem_cons_of_mem _ inside)) handler further
          · exact absurd further List.not_mem_nil
  exact upwards _ fun _ member => mem_climb member

end Registries

/-! ## Runs -/

theorem Command.Makes.keeps_open {command : Command} {opened : Nat}
    (possible : command.IsPossible opened) {name : String} {change : Entry → Entry}
    (copies : ∀ id source options, command ≠ .copyConfiguration id source options)
    (makes : command.Makes name change) : KeepsHandlers (Handler.IsOpen opened) name change := by
  refine ⟨makes.keeps_parent, ?_⟩
  have rebinds : ∀ {service : String}, RebindsKeys service name change → ∀ entry : Entry,
      (∀ handler ∈ entry.handlers, handler.IsOpen opened) →
      ∀ handler ∈ (change entry).handlers, handler.IsOpen opened := by
    intro service rebinds entry own
    obtain ⟨_, _, same⟩ := rebinds
    rw [same]
    exact own
  cases command with
  | setLevel | setServiceLevel | setPropagate =>
      obtain ⟨_, same⟩ := makes
      rw [same]
      exact fun _ own => own
  | setHandlers id target handlers =>
      obtain ⟨_, same⟩ := makes
      rw [same]
      exact fun _ _ => possible
  | addHandler id target handler =>
      obtain ⟨_, same⟩ := makes
      rw [same]
      intro entry own other member
      rcases List.mem_append.mp member with held | added
      · exact own other held
      · rw [List.mem_singleton.mp added]
        exact possible
  | build blueprint draw =>
      rcases makes with keys | service
      · exact rebinds keys
      · rw [service.2.2]
        intro entry _ handler member
        rw [List.mem_singleton.mp member]
        exact possible
  | appendKeys | removeKeys | clearKeys | structureKeys | injectInvocation | evaluate =>
      exact rebinds makes
  | copyConfiguration id source options => exact absurd rfl (copies id source options)
  | register | deliver | dispatch | openStream | addFormatter | report | log | logException
  | logIncoming => cases makes

namespace State

/-- Every handler writes to an open stream. -/
structure OpenOnly (state : State) : Prop where
  linked : ∀ id, (state.registry id).Linked
  handlers : ∀ id, (state.registry id).AllHandlers (Handler.IsOpen state.streams.length)

theorem open_only_of_empty {state : State} (empty : ∀ id, state.registry id = .empty) :
    OpenOnly state where
  linked := by
    intro id
    rw [empty]
    exact Registry.empty_linked
  handlers := by
    intro id name handler member
    rw [empty] at member
    unfold Registry.handlersOf Registry.get? at member
    split at member <;> exact absurd member List.not_mem_nil

/-! ## Streams along runs -/

theorem log_incoming_only_writes (state : State) (logger : Logger) (site : CallSite)
    (event : Except Json.WriteError Json) : OnlyWrites state (state.logIncoming logger site event) := by
  rw [log_incoming_eq_hand_all]
  exact state.hand_all_only_writes _

theorem streams_of_build (state : State) (blueprint : Blueprint) (draw : Draw) :
    (state.build blueprint draw).streams = state.streams := by
  have prepared : (state.prepare blueprint).streams = state.streams := by
    unfold prepare
    dsimp only
    split <;> rfl
  cases part : blueprint.child with
  | some child =>
      rw [build_child_eq state part]
      exact prepared
  | none =>
      rw [build_service_eq state part]
      exact prepared

theorem streams_of_evaluate (state : State) (logger : Logger) (eventSite outcomeSite : CallSite)
    (invocation : Invocation) (payload : Json) :
    (state.evaluate logger eventSite outcomeSite invocation payload).streams = state.streams := by
  have received : ((state.injectInvocation logger invocation).logIncoming logger eventSite
      (.ok payload)).streams = state.streams :=
    (log_incoming_only_writes _ logger eventSite (.ok payload)).streams
  unfold evaluate
  dsimp only
  split
  · exact received
  · split
    · exact received
    · exact (deliver_only_writes _ _ _ _ _).streams.trans received

theorem streams_of_perform (state : State) (command : Command) :
    (state.perform command).streams = state.streams ++ command.opens := by
  have still : ∀ {after : State}, after.streams = state.streams →
      after.streams = state.streams ++ [] := by
    intro after same
    rw [same, List.append_nil]
  cases command with
  | openStream stream => rfl
  | register | setLevel | setPropagate | setHandlers | addHandler | addFormatter | report
  | appendKeys | removeKeys | clearKeys | injectInvocation | setServiceLevel => exact still rfl
  | deliver | log | logException => exact still (deliver_only_writes _ _ _ _ _).streams
  | dispatch id event time =>
      apply still
      rw [perform, dispatch_eq_hand_all]
      split
      · rfl
      · exact (hand_all_only_writes _ _).streams
  | build blueprint draw => exact still (state.streams_of_build blueprint draw)
  | logIncoming logger site event =>
      exact still (state.log_incoming_only_writes logger site event).streams
  | structureKeys logger keep pairs =>
      cases keep with
      | true => exact still rfl
      | false => exact still rfl
  | copyConfiguration id source options =>
      apply still
      rw [perform, copyConfiguration]
      split
      · rfl
      · exact (configure_all_reconfigures _ _).streams
  | evaluate logger eventSite outcomeSite invocation payload =>
      exact still (state.streams_of_evaluate logger eventSite outcomeSite invocation payload)

theorem OpenOnly.grows {before after : State} (openOnly : OpenOnly before)
    (grows : Grows (KeepsHandlers (Handler.IsOpen before.streams.length)) before after)
    (longer : before.streams.length ≤ after.streams.length) : OpenOnly after where
  linked := by
    intro id
    exact ((grows id).mono fun _ _ keeps => keeps.1).linked (openOnly.linked id)
  handlers := by
    intro id name handler member outlet held stream named
    have opened := (grows id).all_handlers (openOnly.linked id) (openOnly.handlers id) name handler
      member outlet held stream named
    omega

theorem copied_handler_is_open {state : State} (openOnly : OpenOnly state) {source : Logger}
    {handler : Handler} (held : source.handler? state = some handler) :
    handler.IsOpen state.streams.length := by
  obtain ⟨entry, found, first⟩ := Option.bind_eq_some_iff.mp held
  exact (openOnly.handlers source.registry).of_get? found handler (List.mem_of_head? first)

theorem perform_open_only {state : State} (openOnly : OpenOnly state) {command : Command}
    (possible : command.IsPossible state.streams.length) : OpenOnly (state.perform command) := by
  have longer : state.streams.length ≤ (state.perform command).streams.length := by
    rw [streams_of_perform, List.length_append]
    omega
  by_cases copies : ∃ id source options, command = .copyConfiguration id source options
  · obtain ⟨id, source, options, same⟩ := copies
    rw [same] at longer ⊢
    apply openOnly.grows _ longer
    rw [perform, copyConfiguration]
    cases held : source.handler? state with
    | none => exact emit_grows state _
    | some handler =>
        apply configure_grows
        intro name
        refine ⟨fun _ => rfl, fun _ _ other member => ?_⟩
        rw [List.mem_singleton.mp member]
        exact copied_handler_is_open openOnly held
  · apply openOnly.grows _ longer
    apply (state.perform_grows command).mono
    intro name change makes
    apply makes.keeps_open possible
    intro id source options same
    exact copies ⟨id, source, options, same⟩

/-! ## Lines go to open streams -/

theorem delivered_to_open {state : State} (openOnly : OpenOnly state) (occasion : Occasion)
    (id : Nat) (name : String) (record : Record) :
    ∀ handover ∈ state.delivered occasion id name record,
      handover.outlet.IsOpen state.streams.length := by
  intro handover member
  unfold delivered at member
  split at member
  · obtain ⟨handler, heard, handed⟩ := List.mem_filterMap.mp member
    have isOpen := (openOnly.handlers id).audience name handler heard
    obtain ⟨_, outlet, held, same⟩ := handover_some_iff.mp handed
    rw [← same]
    exact isOpen outlet held
  · exact absurd member List.not_mem_nil

theorem incoming_to_open {state : State} (openOnly : OpenOnly state) (logger : Logger)
    (site : CallSite) (event : Except Json.WriteError Json) :
    ∀ handover ∈ state.incoming logger site event,
      handover.outlet.IsOpen state.streams.length := by
  unfold incoming
  split
  · exact delivered_to_open openOnly _ _ _ _
  · exact fun _ member => absurd member List.not_mem_nil

theorem dispatched_to_open {state : State} (openOnly : OpenOnly state) (id : Nat)
    (event : TraceEvent) (time : Timestamp) :
    ∀ handover ∈ state.dispatched id event time,
      handover.outlet.IsOpen state.streams.length := by
  have registered : OpenOnly (state.perform (.register id (nameOfTarget event.target))) :=
    perform_open_only openOnly trivial
  unfold dispatched
  split
  · exact fun _ member => absurd member List.not_mem_nil
  · exact delivered_to_open registered _ _ _ _

theorem evaluated_to_open {state : State} (openOnly : OpenOnly state) (logger : Logger)
    (eventSite outcomeSite : CallSite) (invocation : Invocation) (payload : Json) :
    ∀ handover ∈ state.evaluated logger eventSite outcomeSite invocation payload,
      handover.outlet.IsOpen state.streams.length := by
  let injected := state.injectInvocation logger invocation
  let received := injected.logIncoming logger eventSite (.ok payload)
  have injectedOpen : OpenOnly (state.perform (.injectInvocation logger invocation)) :=
    perform_open_only openOnly trivial
  have receivedOpen : OpenOnly (injected.perform (.logIncoming logger eventSite (.ok payload))) :=
    perform_open_only injectedOpen trivial
  have streams : received.streams = state.streams :=
    (injected.log_incoming_only_writes logger eventSite (.ok payload)).streams
  intro handover member
  unfold evaluated at member
  rcases List.mem_append.mp member with first | second
  · exact incoming_to_open injectedOpen logger eventSite (.ok payload) handover first
  · split at second
    · exact absurd second List.not_mem_nil
    · rename_i identified _
      let named := received.perform (.appendKeys logger
        [("config_rule_name", .string identified.ruleName)])
      have namedOpen : OpenOnly named := perform_open_only receivedOpen trivial
      have namedStreams : named.streams = state.streams := streams
      split at second
      · exact absurd second List.not_mem_nil
      · have isOpen := delivered_to_open namedOpen _ _ _ _ handover second
        rw [namedStreams] at isOpen
        exact isOpen

/-- Whatever a command hands over goes to streams that were open before it. -/
theorem handovers_to_open {state : State} (openOnly : OpenOnly state) (command : Command) :
    ∀ handover ∈ state.handovers command, handover.outlet.IsOpen state.streams.length := by
  cases command with
  | deliver id name record => exact delivered_to_open openOnly _ _ _ _
  | dispatch id event time => exact dispatched_to_open openOnly id event time
  | log | logException => exact delivered_to_open openOnly _ _ _ _
  | logIncoming logger site event => exact incoming_to_open openOnly logger site event
  | evaluate logger eventSite outcomeSite invocation payload =>
      exact evaluated_to_open openOnly logger eventSite outcomeSite invocation payload
  | register | setLevel | setPropagate | setHandlers | addHandler | openStream | addFormatter
  | report | build | appendKeys | removeKeys | clearKeys | structureKeys | injectInvocation
  | setServiceLevel | copyConfiguration => exact fun _ member => absurd member List.not_mem_nil

end State

end FunctionKit.Logging
