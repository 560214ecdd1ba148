import FunctionKit.Logging.Session
import FunctionKit.Proofs.Delivery
import FunctionKit.Proofs.Lineage

/-!
# Registries along runs

Whatever a command does to a registry is a sequence of registrations and of changes of entries
that leave the parent alone. So every registry that a run leads to is linked, and the parents in it
can be told by names.
-/

namespace FunctionKit.Logging

set_option autoImplicit false

/-- The registries that come of a registry by registrations and allowed changes of entries. -/
inductive Registry.Grows (allowed : String → (Entry → Entry) → Prop) (start : Registry) :
    Registry → Prop
  | same : Grows allowed start start
  | registered {registry : Registry} (name : String) (before : Grows allowed start registry) :
      Grows allowed start (registry.register name)
  | modified {registry : Registry} (name : String) (change : Entry → Entry)
      (fits : allowed name change) (before : Grows allowed start registry) :
      Grows allowed start (registry.modify name change)

def KeepsParent (_ : String) (change : Entry → Entry) : Prop :=
  ∀ entry, (change entry).parent = entry.parent

/-- The keys of one service are bound anew. -/
def RebindsKeys (service name : String) (change : Entry → Entry) : Prop :=
  name = service ∧
    ∃ rebind : Fields → Fields,
      change = fun entry => { entry with boundKeys := rebind entry.boundKeys }

/-- The changes of entries that a command makes, besides registering some. -/
def Command.Makes (command : Command) (name : String) (change : Entry → Entry) : Prop :=
  match command with
  | .setLevel _ target level => name = target ∧ change = fun entry => { entry with level }
  | .setServiceLevel logger level =>
    name = logger.service ∧ change = fun entry => { entry with level }
  | .setPropagate _ target propagate =>
    name = target ∧ change = fun entry => { entry with propagate }
  | .setHandlers _ target handlers => name = target ∧ change = fun entry => { entry with handlers }
  | .addHandler _ target handler =>
    name = target ∧ change = fun entry => { entry with handlers := entry.handlers ++ [handler] }
  | .build blueprint draw =>
    RebindsKeys blueprint.settings.service name change ∨
      blueprint.child = none ∧ name = blueprint.settings.service ∧
        change = fun entry =>
          { entry with
            handlers := [blueprint.handler]
            propagate := false
            level := blueprint.level draw }
  | .appendKeys logger _ | .removeKeys logger _ | .clearKeys logger | .structureKeys logger _ _
  | .injectInvocation logger _ | .evaluate logger _ _ _ _ => RebindsKeys logger.service name change
  | .copyConfiguration _ _ _ =>
    ∃ handler level, change = fun entry =>
      { entry with handlers := [handler], level, propagate := false }
  | _ => False

theorem Command.Makes.keeps_parent {command : Command} {name : String} {change : Entry → Entry}
    (makes : command.Makes name change) : KeepsParent name change := by
  cases command with
  | setLevel | setServiceLevel | setPropagate | setHandlers | addHandler =>
      obtain ⟨_, rfl⟩ := makes
      exact fun _ => rfl
  | appendKeys | removeKeys | clearKeys | structureKeys | injectInvocation | evaluate
  | copyConfiguration =>
      obtain ⟨_, _, rfl⟩ := makes
      exact fun _ => rfl
  | build =>
      rcases makes with ⟨_, _, rfl⟩ | ⟨_, _, rfl⟩ <;> exact fun _ => rfl
  | register | deliver | dispatch | openStream | addFormatter | report | log | logException
  | logIncoming => cases makes

theorem Registry.Grows.mono {allowed wider : String → (Entry → Entry) → Prop}
    {start registry : Registry} (grows : start.Grows allowed registry)
    (fits : ∀ name change, allowed name change → wider name change) :
    start.Grows wider registry := by
  induction grows with
  | same => exact .same
  | registered name _ ih => exact .registered name ih
  | modified name change allowed _ ih => exact .modified name change (fits name change allowed) ih

theorem Registry.Grows.trans {allowed : String → (Entry → Entry) → Prop}
    {first second third : Registry} (left : first.Grows allowed second)
    (right : second.Grows allowed third) : first.Grows allowed third := by
  induction right with
  | same => exact left
  | registered name _ ih => exact .registered name ih
  | modified name change fits _ ih => exact .modified name change fits ih

theorem Registry.Grows.linked {start registry : Registry} (grows : start.Grows KeepsParent registry)
    (linked : start.Linked) : registry.Linked := by
  induction grows with
  | same => exact linked
  | registered name _ ih => exact register_linked ih name
  | modified name change fits _ ih => exact modify_linked ih name fits

namespace State

/-- Each registry has grown by allowed changes. -/
def Grows (allowed : String → (Entry → Entry) → Prop) (before after : State) : Prop :=
  ∀ id, (before.registry id).Grows allowed (after.registry id)

section Operations

variable {allowed : String → (Entry → Entry) → Prop} {before after : State}

theorem Grows.mono {wider : String → (Entry → Entry) → Prop} (grows : Grows allowed before after)
    (fits : ∀ name change, allowed name change → wider name change) :
    Grows wider before after :=
  fun id => (grows id).mono fits

theorem Grows.trans {last : State} (left : Grows allowed before after)
    (right : Grows allowed after last) : Grows allowed before last :=
  fun id => (left id).trans (right id)

theorem OnlyWrites.grows (writes : OnlyWrites before after) : Grows allowed before after := by
  intro id
  rw [writes.registry id]
  exact .same

theorem register_grows (state : State) (id : Nat) (name : String) :
    Grows allowed state (state.register id name) := by
  intro other
  unfold register
  rw [registry_setRegistry]
  by_cases same : id = other
  · subst same
    rw [if_pos rfl]
    exact .registered name .same
  · rw [if_neg same]
    exact .same

theorem modify_entry_grows (state : State) (id : Nat) (name : String) {change : Entry → Entry}
    (fits : allowed name change) : Grows allowed state (state.modifyEntry id name change) := by
  intro other
  unfold modifyEntry
  rw [registry_setRegistry]
  by_cases same : id = other
  · subst same
    rw [if_pos rfl]
    exact .modified name change fits .same
  · rw [if_neg same]
    exact .same

theorem emit_grows (state : State) (emission : Emission) :
    Grows allowed state (state.emit emission) :=
  fun _ => .same

theorem deliver_grows (state : State) (occasion : Occasion) (id : Nat) (name : String)
    (record : Record) : Grows allowed state (state.deliver occasion id name record) :=
  (state.deliver_only_writes occasion id name record).grows

theorem dispatch_grows (state : State) (id : Nat) (event : TraceEvent) (time : Timestamp) :
    Grows allowed state (state.dispatch id event time) := by
  unfold dispatch
  split
  · exact fun _ => .same
  · dsimp only
    have registered : Grows allowed state (state.register id (nameOfTarget event.target)) :=
      state.register_grows id _
    split
    · exact registered.trans (deliver_grows _ _ _ _ _)
    · exact registered

theorem log_incoming_grows (state : State) (logger : Logger) (site : CallSite)
    (event : Except Json.WriteError Json) :
    Grows allowed state (state.logIncoming logger site event) := by
  unfold logIncoming
  split
  · exact deliver_grows _ _ _ _ _
  · exact fun _ => .same

end Operations

/-! ## Operations of loggers -/

theorem modify_keys_grows (state : State) (id : Nat) (service : String)
    (change : Fields → Fields) :
    Grows (RebindsKeys service) state (state.modifyKeys id service change) :=
  state.modify_entry_grows id service ⟨rfl, change, rfl⟩

theorem structure_keys_grows (state : State) (logger : Logger) (keep : Bool)
    (pairs : List (String × Json)) :
    Grows (RebindsKeys logger.service) state (state.structureKeys logger keep pairs) := by
  unfold structureKeys
  dsimp only
  split
  · exact modify_keys_grows _ _ _ _
  · exact (state.modify_keys_grows _ _ BoundKeys.clear).trans (modify_keys_grows _ _ _ _)

theorem inject_invocation_grows (state : State) (logger : Logger) (invocation : Invocation) :
    Grows (RebindsKeys logger.service) state (state.injectInvocation logger invocation) :=
  modify_keys_grows { state with coldStart := false } _ _ _

theorem evaluate_grows (state : State) (logger : Logger) (eventSite outcomeSite : CallSite)
    (invocation : Invocation) (payload : Json) :
    Grows (RebindsKeys logger.service) state
      (state.evaluate logger eventSite outcomeSite invocation payload) := by
  unfold evaluate
  dsimp only
  have received : Grows (RebindsKeys logger.service) state
      ((state.injectInvocation logger invocation).logIncoming logger eventSite (.ok payload)) :=
    (state.inject_invocation_grows logger invocation).trans (log_incoming_grows _ _ _ _)
  split
  · exact received
  · rename_i identified _
    have named := received.trans (modify_keys_grows _ logger.registry logger.service
      (BoundKeys.append [("config_rule_name", .string identified.ruleName)]))
    split
    · exact named
    · exact named.trans (deliver_grows _ _ _ _ _)

/-- What a build does before it registers a child or takes over the entry of its service. -/
def prepare (state : State) (blueprint : Blueprint) : State :=
  let registered := state.register blueprint.registry blueprint.settings.service
  if blueprint.isSampling then
    registered.modifyKeys blueprint.registry blueprint.settings.service
      (BoundKeys.append [("sampling_rate", .ofBinary64 blueprint.settings.sampleRate)])
  else registered

theorem prepare_grows (state : State) (blueprint : Blueprint) :
    Grows (RebindsKeys blueprint.settings.service) state (state.prepare blueprint) := by
  unfold prepare
  dsimp only
  split
  · exact (register_grows _ _ _).trans (modify_keys_grows _ _ _ _)
  · exact register_grows _ _ _

theorem build_child_eq (state : State) {blueprint : Blueprint} {child : String}
    (isChild : blueprint.child = some child) (draw : Draw) :
    state.build blueprint draw =
      (state.prepare blueprint).register blueprint.registry blueprint.logger.name := by
  unfold build
  rw [isChild]
  rfl

theorem build_service_eq (state : State) {blueprint : Blueprint} (isService : blueprint.child = none)
    (draw : Draw) :
    state.build blueprint draw =
      (state.prepare blueprint).modifyEntry blueprint.registry blueprint.settings.service
        fun entry =>
          { entry with
            handlers := [blueprint.handler]
            propagate := false
            level := blueprint.level draw } := by
  unfold build
  rw [isService]
  rfl

theorem build_grows (state : State) (blueprint : Blueprint) (draw : Draw) :
    Grows (Command.build blueprint draw).Makes state (state.build blueprint draw) := by
  have prepared : Grows (Command.build blueprint draw).Makes state (state.prepare blueprint) :=
    (state.prepare_grows blueprint).mono fun _ _ rebinds => .inl rebinds
  cases part : blueprint.child with
  | some child =>
      rw [build_child_eq state part]
      exact prepared.trans (register_grows _ _ _)
  | none =>
      rw [build_service_eq state part]
      exact prepared.trans (modify_entry_grows _ _ _ (.inr ⟨part, rfl, rfl⟩))

theorem configure_grows {allowed : String → (Entry → Entry) → Prop} (names : List String)
    (state : State) (id : Nat) (handler : Handler) (level : Level)
    (fits : ∀ name, allowed name fun entry =>
      { entry with handlers := [handler], level, propagate := false }) :
    Grows allowed state
      (names.foldl (fun current name => current.configureFrom id handler level name) state) := by
  induction names generalizing state with
  | nil => exact fun _ => .same
  | cons name rest ih =>
      have configured : Grows allowed state (state.configureFrom id handler level name) :=
        (state.modify_entry_grows id name (fits name)).trans (emit_grows _ _)
      exact configured.trans (ih _)

theorem copy_configuration_grows (state : State) (id : Nat) (source : Logger)
    (options : CopyOptions) :
    Grows (Command.copyConfiguration id source options).Makes state
      (state.copyConfiguration id source options) := by
  unfold copyConfiguration
  split
  · exact state.emit_grows _
  · exact configure_grows _ _ _ _ _ fun _ => ⟨_, _, rfl⟩

/-! ## Runs -/

/-- A command registers names and makes its changes, and that is all it does to registries. -/
theorem perform_grows (state : State) (command : Command) :
    Grows command.Makes state (state.perform command) := by
  cases command with
  | register id name => exact state.register_grows id name
  | setLevel id name level => exact state.modify_entry_grows id name ⟨rfl, rfl⟩
  | setPropagate id name propagate => exact state.modify_entry_grows id name ⟨rfl, rfl⟩
  | setHandlers id name handlers => exact state.modify_entry_grows id name ⟨rfl, rfl⟩
  | addHandler id name handler => exact state.modify_entry_grows id name ⟨rfl, rfl⟩
  | deliver id name record => exact state.deliver_grows .call id name record
  | dispatch id event time => exact state.dispatch_grows id event time
  | openStream stream => exact fun _ => .same
  | addFormatter service => exact fun _ => .same
  | report diagnostic => exact fun _ => .same
  | build blueprint draw => exact state.build_grows blueprint draw
  | log logger site level message extra => exact state.deliver_grows _ _ _ _
  | logException logger site message causes => exact state.deliver_grows _ _ _ _
  | logIncoming logger site event => exact state.log_incoming_grows logger site event
  | appendKeys logger pairs => exact state.modify_keys_grows _ _ _
  | removeKeys logger keys => exact state.modify_keys_grows _ _ _
  | clearKeys logger => exact state.modify_keys_grows _ _ _
  | structureKeys logger keep pairs => exact state.structure_keys_grows logger keep pairs
  | injectInvocation logger invocation => exact state.inject_invocation_grows logger invocation
  | setServiceLevel logger level => exact state.modify_entry_grows _ _ ⟨rfl, rfl⟩
  | copyConfiguration id source options => exact state.copy_configuration_grows id source options
  | evaluate logger eventSite outcomeSite invocation payload =>
      exact state.evaluate_grows logger eventSite outcomeSite invocation payload

theorem run_append (state : State) (early late : List Command) :
    run state (early ++ late) = run (run state early) late :=
  List.foldl_append

/-- What all commands of a run may do, the run may do. -/
theorem run_grows {allowed : String → (Entry → Entry) → Prop} (commands : List Command)
    (fits : ∀ command ∈ commands, ∀ name change, command.Makes name change → allowed name change)
    (state : State) : Grows allowed state (run state commands) := by
  induction commands generalizing state with
  | nil => exact fun _ => .same
  | cons command rest ih =>
      have first : Grows allowed state (state.perform command) :=
        (state.perform_grows command).mono (fits command List.mem_cons_self)
      exact first.trans (ih (fun other member => fits other (List.mem_cons_of_mem _ member)) _)

theorem run_keeps_parents (commands : List Command) (state : State) :
    Grows KeepsParent state (run state commands) :=
  run_grows commands (fun _ _ _ _ makes => makes.keeps_parent) state

theorem reachable_linked {state : State} (reachable : state.Reachable) (id : Nat) :
    (state.registry id).Linked := by
  obtain ⟨start, commands, begins, rfl⟩ := reachable
  have empty : start.registry id = .empty := by
    rcases begins with rfl | rfl <;> rfl
  have grows := run_keeps_parents commands start id
  rw [empty] at grows
  exact grows.linked Registry.empty_linked

end State

/-! ## Parents told by names -/

/-- The registries that runs lead to. -/
def Registry.Reachable (registry : Registry) : Prop :=
  ∃ (state : State) (id : Nat), state.Reachable ∧ state.registry id = registry

theorem Registry.Reachable.linked {registry : Registry} (reachable : registry.Reachable) :
    registry.Linked := by
  obtain ⟨state, id, stateReachable, rfl⟩ := reachable
  exact State.reachable_linked stateReachable id

/-- Only the root has no parent, any other entry hangs below the longest registered name above it.
The way up from an entry ends at the root and meets each registered name above it once, the longest
first. -/
theorem parents_are_told_by_names (registry : Registry) (reachable : registry.Reachable) :
    registry.root.parent = none ∧
      (∀ name ∈ registry.names, ∃ entry upper, registry.get? name = some entry ∧
        entry.parent = some upper ∧ registry.isRegistered upper = true ∧
        NearestAbove registry.names name upper ∧
        ∀ other, NearestAbove registry.names name other → other = upper) ∧
      registry.WayUp rootName [rootName] ∧
      ∀ name ∈ registry.names, ∃ between, registry.WayUp name (name :: between ++ [rootName]) ∧
        (registry.lineage name).map Prod.fst = name :: between ++ [rootName] ∧
        (∀ upper, upper ∈ between ↔ upper ∈ registry.names ∧ IsAbove upper name) ∧
        (name :: between ++ [rootName]).Pairwise fun longer shorter =>
          shorter.length < longer.length := by
  have linked := reachable.linked
  refine ⟨linked.root_on_top, ?_, ?_, ?_⟩
  · intro name member
    have named := linked.not_root member
    obtain ⟨entry, found⟩ := Option.isSome_iff_exists.mp ((Registry.mem_names_iff named).mp member)
    obtain ⟨upper, parent, nearest⟩ := linked.nearest name entry named found
    exact ⟨entry, upper, found, parent, Registry.nearest_is_registered linked nearest, nearest,
      fun other alike => alike.unique nearest⟩
  · exact Registry.way_up_is_chain linked rootName rfl
  · intro name member
    have named := linked.not_root member
    have registered := (Registry.mem_names_iff named).mp member
    have chain : registry.chain name = name :: registry.uppers name ++ [rootName] :=
      if_neg named
    have way := Registry.way_up_is_chain linked name registered
    have met := Registry.lineage_names linked registered
    have shortens := Registry.chain_shortens linked name
    rw [chain] at way met shortens
    exact ⟨registry.uppers name, way, met, registry.mem_uppers name, shortens⟩

/-- `app.db` comes last and is put between `app` and `app.db.pool`; `application` stays apart. -/
theorem parents_after_late_middle :
    let registry := (State.run .initial [.register 0 "app.db.pool", .register 0 "app",
      .register 0 "application", .register 0 "app.db"]).registry 0
    registry.Reachable ∧
      (∃ entry upper, registry.get? "app.db.pool" = some entry ∧ entry.parent = some upper ∧
        registry.isRegistered upper = true ∧
        NearestAbove registry.names "app.db.pool" upper ∧
        ∀ other, NearestAbove registry.names "app.db.pool" other → other = upper) ∧
      (registry.lineage "app.db.pool").map Prod.fst = ["app.db.pool", "app.db", "app", ""] := by
  intro registry
  have reachable : registry.Reachable := ⟨_, 0, ⟨.initial, _, .inl rfl, rfl⟩, rfl⟩
  have told := parents_are_told_by_names registry reachable
  exact ⟨reachable, told.2.1 "app.db.pool" (by decide), by decide⟩

end FunctionKit.Logging
