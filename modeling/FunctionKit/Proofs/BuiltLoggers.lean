import FunctionKit.Proofs.EditedKeys
import FunctionKit.Proofs.SamplingRates

/-!
# What a build changes

A build of a service logger takes over the entry of the service, and a build of a child takes over
none. Of everything else a build leaves handlers, levels and flags alone; it registers the service
and the child, and of all bound keys it touches the sample rate of the service.
-/

namespace FunctionKit

set_option autoImplicit false

namespace Binary64

variable {x y z : Binary64}

theorem lt_of_lt_of_le (less : x.lt y = true) (atMost : y.le z = true) : x.lt z = true := by
  unfold lt at less ⊢
  unfold le at atMost
  simp only [Bool.and_eq_true, decide_eq_true_eq] at less atMost ⊢
  exact ⟨⟨less.1.1, atMost.1.2⟩, less.2.trans_le atMost.2⟩

theorem le_of_lt (less : x.lt y = true) : x.le y = true := by
  unfold lt at less
  unfold le
  simp only [Bool.and_eq_true, decide_eq_true_eq] at less ⊢
  exact ⟨less.1, less.2.le⟩

theorem not_lt_of_le (atMost : x.le y = true) : y.lt x = false := by
  unfold le at atMost
  unfold lt
  simp only [Bool.and_eq_true, decide_eq_true_eq, Bool.and_eq_false_iff,
    decide_eq_false_iff_not] at atMost ⊢
  exact .inr (not_lt.mpr atMost.2)

end Binary64

namespace Logging

/-! ## What a blueprint asks for -/

namespace Blueprint

/-- A service logger takes over the entry of its service, a child takes over none. -/
def TakesOver (blueprint : Blueprint) (id : Nat) (name : String) : Prop :=
  blueprint.child = none ∧ id = blueprint.registry ∧ name = blueprint.settings.service

variable {blueprint : Blueprint}

theorem level_without_sampling (off : blueprint.settings.sampleRate.le .zero = true) (draw : Draw) :
    blueprint.level draw = blueprint.settings.level := by
  unfold level isSampling
  rw [Binary64.not_lt_of_le off]
  rfl

/-- A draw stays below one, so a rate from one upwards always samples. -/
theorem level_of_sure_sampling (sure : Binary64.one.le blueprint.settings.sampleRate = true)
    (draw : Draw) : blueprint.level draw = .debug := by
  have sampling : blueprint.isSampling = true := Binary64.lt_of_lt_of_le (by decide) sure
  have drawn : draw.value.le blueprint.settings.sampleRate = true :=
    Binary64.le_of_lt (Binary64.lt_of_lt_of_le draw.below_one sure)
  rw [level, sampling, drawn]
  rfl

theorem level_of_debug (verbose : blueprint.settings.level = .debug) (draw : Draw) :
    blueprint.level draw = .debug := by
  rw [level, verbose, ite_self]

theorem handler_eq (blueprint : Blueprint) :
    blueprint.handler = ⟨some blueprint.outlet, some blueprint.logger.formatter, .notSet⟩ := by
  unfold handler outlet
  cases blueprint.stream <;> rfl

end Blueprint

namespace Registry

/-- Where names are registered and keys rebound, an entry keeps all but its parent and its keys. -/
theorem Grows.entry_kept {service : String} {start registry : Registry}
    (grows : start.Grows (RebindsKeys service) registry) (linked : start.Linked) {name : String}
    {entry : Entry} (found : start.get? name = some entry) :
    ∃ parent boundKeys, registry.get? name = some { entry with parent, boundKeys } := by
  induction grows with
  | same => exact ⟨entry.parent, entry.boundKeys, found⟩
  | @registered before other grown ih =>
      obtain ⟨_, boundKeys, held⟩ := ih
      cases known : before.isRegistered other with
      | true =>
          rw [register_registered before other known]
          exact ⟨_, boundKeys, held⟩
      | false =>
          have linkedBefore := (grown.mono fun _ _ rebinds => rebinds.keeps_route.1).linked linked
          obtain ⟨parent, kept⟩ := Registry.entry_kept linkedBefore known held
          exact ⟨parent, boundKeys, kept⟩
  | @modified before other change rebinds _ ih =>
      obtain ⟨parent, boundKeys, held⟩ := ih
      obtain ⟨_, rebind, rfl⟩ := rebinds
      rw [get?_modify_map, held, Option.map_some]
      split
      · exact ⟨parent, rebind boundKeys, rfl⟩
      · exact ⟨parent, boundKeys, rfl⟩

end Registry

namespace State

/-! ## The keys of a service -/

/-- The keys of a service, whether its name is registered or not: it starts with its name bound. -/
def serviceKeys (state : State) (id : Nat) (service : String) : Fields :=
  (((state.registry id).get? service).map Entry.boundKeys).getD (BoundKeys.initial service)

section ServiceKeys

variable {state : State} {id : Nat} {service : String}

theorem service_keys_of_registered
    (registered : (state.registry id).isRegistered service = true) :
    state.serviceKeys id service = state.boundKeys (.service id service) := by
  obtain ⟨entry, found⟩ := Option.isSome_iff_exists.mp registered
  simp only [serviceKeys, boundKeys, found, Option.map_some, Option.getD_some]

theorem service_keys_of_register (linked : ∀ id, (state.registry id).Linked) (id : Nat)
    (name : String) (other : Nat) (service : String) :
    (state.register id name).serviceKeys other service = state.serviceKeys other service := by
  unfold serviceKeys register
  rw [registry_setRegistry]
  by_cases same : id = other
  · subst same
    rw [if_pos rfl]
    cases known : (state.registry id).isRegistered name with
    | true => rw [Registry.register_registered _ _ known]
    | false =>
        by_cases here : service = name
        · subst here
          have nobody : (state.registry id).get? service = none := by
            simpa [Registry.isRegistered] using known
          rw [Registry.get?_new (linked id) known, nobody]
          rfl
        · rw [Registry.field_kept Entry.boundKeys (fun _ _ => rfl) (linked id) known here]
  · rw [if_neg same]

theorem service_keys_of_modify (id : Nat) (name : String) {change : Entry → Entry}
    (keeps : ∀ entry, (change entry).boundKeys = entry.boundKeys) (other : Nat)
    (service : String) :
    (state.modifyEntry id name change).serviceKeys other service =
      state.serviceKeys other service := by
  unfold serviceKeys
  rw [held_keys_modify_entry state id other name service keeps]

theorem service_keys_of_rebinding (registered : (state.registry id).isRegistered service = true)
    (rebind : Fields → Fields) (other : Nat) (name : String) :
    (state.modifyKeys id service rebind).serviceKeys other name =
      if id = other ∧ service = name then rebind (state.serviceKeys other name)
      else state.serviceKeys other name := by
  obtain ⟨entry, found⟩ := Option.isSome_iff_exists.mp registered
  unfold serviceKeys modifyKeys
  rw [registry_modify_entry]
  by_cases same : id = other
  · subst same
    rw [if_pos rfl, Registry.get?_modify]
    by_cases here : service = name
    · subst here
      rw [if_pos rfl, if_pos ⟨rfl, rfl⟩, found]
      rfl
    · rw [if_neg here, if_neg fun both => here both.2]
  · rw [if_neg same, if_neg fun both => same both.1]

end ServiceKeys

/-! ## Builds -/

/-- Of the entries that were there a build has changed at most the parents and keys, except for the
one that it takes over. The service and the logger are registered, and what is different in the keys
is the sample rate of the service. -/
structure OnlyBuilds (blueprint : Blueprint) (before after : State) : Prop where
  entries : ∀ id name entry, (before.registry id).get? name = some entry →
    ¬blueprint.TakesOver id name →
    ∃ parent boundKeys, (after.registry id).get? name = some { entry with parent, boundKeys }
  names : ∀ id name, name ∈ (after.registry id).names ↔
    name ∈ (before.registry id).names ∨ id = blueprint.registry ∧ name ≠ rootName ∧
      (name = blueprint.settings.service ∨ name = blueprint.logger.name)
  other_keys : ∀ id service,
    ¬(id = blueprint.registry ∧ service = blueprint.settings.service) →
    after.serviceKeys id service = before.serviceKeys id service
  own_keys : ∀ key, key ≠ samplingRateKey →
    Dict.get? key (after.serviceKeys blueprint.registry blueprint.settings.service) =
      Dict.get? key (before.serviceKeys blueprint.registry blueprint.settings.service)
  only_registries : after = { before with registries := after.registries }

section Build

variable {state : State} {blueprint : Blueprint}

theorem names_of_register (linked : ∀ id, (state.registry id).Linked) (id : Nat) (name : String)
    (other : Nat) (listed : String) :
    listed ∈ ((state.register id name).registry other).names ↔
      listed ∈ (state.registry other).names ∨ other = id ∧ listed ≠ rootName ∧ listed = name := by
  unfold register
  rw [registry_setRegistry]
  by_cases same : id = other
  · subst same
    rw [if_pos rfl, Registry.mem_names_of_register (linked id)]
    simp only [true_and]
  · rw [if_neg same]
    simp only [Ne.symm same, false_and, or_false]

theorem prepare_keeps_linked (linked : ∀ id, (state.registry id).Linked) (blueprint : Blueprint)
    (id : Nat) : ((state.prepare blueprint).registry id).Linked :=
  ((state.prepare_grows blueprint).mono (fun _ _ rebinds => rebinds.keeps_route.1) id).linked
    (linked id)

theorem names_of_prepare (linked : ∀ id, (state.registry id).Linked) (id : Nat) (name : String) :
    name ∈ ((state.prepare blueprint).registry id).names ↔
      name ∈ (state.registry id).names ∨
        id = blueprint.registry ∧ name ≠ rootName ∧ name = blueprint.settings.service := by
  unfold prepare
  dsimp only
  split
  · unfold modifyKeys
    rw [names_modify_entry, names_of_register linked]
  · rw [names_of_register linked]

theorem service_keys_of_prepare (linked : ∀ id, (state.registry id).Linked) (id : Nat)
    (service : String) :
    (state.prepare blueprint).serviceKeys id service =
      if blueprint.isSampling = true ∧ blueprint.registry = id ∧
          blueprint.settings.service = service then
        BoundKeys.append [(samplingRateKey, .ofBinary64 blueprint.settings.sampleRate)]
          (state.serviceKeys id service)
      else state.serviceKeys id service := by
  have registered : ((state.register blueprint.registry blueprint.settings.service).registry
      blueprint.registry).isRegistered blueprint.settings.service = true := by
    rw [registry_register]
    exact Registry.register_registers (linked _) _
  unfold prepare
  dsimp only
  by_cases sampling : blueprint.isSampling = true
  · rw [if_pos sampling, service_keys_of_rebinding registered, service_keys_of_register linked]
    simp only [sampling, true_and]
    rfl
  · rw [if_neg sampling, service_keys_of_register linked, if_neg fun all => sampling all.1]

theorem service_keys_of_build (linked : ∀ id, (state.registry id).Linked) (draw : Draw) (id : Nat)
    (service : String) :
    (state.build blueprint draw).serviceKeys id service =
      (state.prepare blueprint).serviceKeys id service := by
  cases part : blueprint.child with
  | some child =>
      rw [build_child_eq state part,
        service_keys_of_register (prepare_keeps_linked linked blueprint)]
  | none =>
      rw [build_service_eq state part]
      apply service_keys_of_modify
      exact fun _ => rfl

theorem names_of_build (linked : ∀ id, (state.registry id).Linked) (draw : Draw) (id : Nat)
    (name : String) :
    name ∈ ((state.build blueprint draw).registry id).names ↔
      name ∈ (state.registry id).names ∨ id = blueprint.registry ∧ name ≠ rootName ∧
        (name = blueprint.settings.service ∨ name = blueprint.logger.name) := by
  cases part : blueprint.child with
  | some child =>
      rw [build_child_eq state part, names_of_register (prepare_keeps_linked linked blueprint),
        names_of_prepare linked]
      tauto
  | none =>
      have own : blueprint.logger.name = blueprint.settings.service := by
        simp only [Blueprint.logger, Logger.name, childName, part]
      rw [build_service_eq state part, names_modify_entry, names_of_prepare linked, own, or_self]

theorem entries_of_build (linked : ∀ id, (state.registry id).Linked) (draw : Draw) {id : Nat}
    {name : String} {entry : Entry} (found : (state.registry id).get? name = some entry)
    (spared : ¬blueprint.TakesOver id name) :
    ∃ parent boundKeys,
      ((state.build blueprint draw).registry id).get? name =
        some { entry with parent, boundKeys } := by
  have prepared := state.prepare_grows blueprint
  cases part : blueprint.child with
  | some child =>
      rw [build_child_eq state part]
      exact (prepared.trans (register_grows _ _ _) id).entry_kept (linked id) found
  | none =>
      obtain ⟨parent, boundKeys, kept⟩ := (prepared id).entry_kept (linked id) found
      refine ⟨parent, boundKeys, ?_⟩
      rw [build_service_eq state part, registry_modify_entry]
      by_cases same : blueprint.registry = id
      · have apart : name ≠ blueprint.settings.service :=
          fun here => spared ⟨part, same.symm, here⟩
        rw [if_pos same, same, Registry.get?_modify, if_neg (Ne.symm apart), kept]
      · rw [if_neg same, kept]

/-- What a build does is done in the registries. -/
theorem build_eq_registries (state : State) (blueprint : Blueprint) (draw : Draw) :
    state.build blueprint draw =
      { state with registries := (state.build blueprint draw).registries } := by
  have prepared : state.prepare blueprint =
      { state with registries := (state.prepare blueprint).registries } := by
    unfold prepare
    dsimp only
    split <;> rfl
  cases part : blueprint.child with
  | some child =>
      rw [build_child_eq state part, prepared]
      rfl
  | none =>
      rw [build_service_eq state part, prepared]
      rfl

theorem build_only_builds (linked : ∀ id, (state.registry id).Linked) (blueprint : Blueprint)
    (draw : Draw) : OnlyBuilds blueprint state (state.build blueprint draw) where
  entries := fun _ _ _ => entries_of_build linked draw
  names := names_of_build linked draw
  other_keys := by
    intro id service other
    rw [service_keys_of_build linked, service_keys_of_prepare linked, if_neg]
    rintro ⟨_, rfl, rfl⟩
    exact other ⟨rfl, rfl⟩
  own_keys := by
    intro key other
    rw [service_keys_of_build linked, service_keys_of_prepare linked]
    split
    · have unnamed : Dict.lastValue? key
          [(samplingRateKey, Json.ofBinary64 blueprint.settings.sampleRate)] = none :=
        Dict.last_value_of_absent (by simpa [Dict.keys] using other)
      rw [BoundKeys.get?_append, unnamed]
      rfl
    · rfl
  only_registries := state.build_eq_registries blueprint draw

theorem entry_of_built_service (linked : ∀ id, (state.registry id).Linked)
    (isService : blueprint.child = none) (draw : Draw) :
    ∃ entry, ((state.build blueprint draw).registry blueprint.registry).get?
        blueprint.settings.service = some entry ∧
      entry.handlers = [blueprint.handler] ∧ entry.propagate = false ∧
      entry.level = blueprint.level draw := by
  obtain ⟨entry, found⟩ :=
    Option.isSome_iff_exists.mp (prepare_registers (linked blueprint.registry))
  refine ⟨{ entry with
    handlers := [blueprint.handler]
    propagate := false
    level := blueprint.level draw }, ?_, rfl, rfl, rfl⟩
  rw [build_service_eq state isService, registry_modify_entry, if_pos rfl, Registry.get?_modify,
    if_pos rfl, found]
  rfl

theorem formatter_eq_iff {first second : Logger} (sameRegistry : first.registry = second.registry) :
    first.formatter = second.formatter ↔ first.service = second.service := by
  simp only [Logger.formatter, sameRegistry, Formatter.service.injEq, true_and]

/-- What is appended through a logger is seen by the loggers of its service and by no others. -/
theorem bound_keys_of_append {first second : Logger}
    (sameRegistry : second.registry = first.registry)
    (has : state.HasService first.registry second.service) (pairs : List (String × Json)) :
    second.boundKeys (state.appendKeys first pairs) =
      if second.service = first.service then BoundKeys.append pairs (second.boundKeys state)
      else second.boundKeys state := by
  have shown : second.formatter = .service first.registry second.service := by
    rw [Logger.formatter, sameRegistry]
  have edited := has.bound_keys_of_edit first (.append pairs)
  rw [Logger.edits] at edited
  rw [Logger.boundKeys, Logger.boundKeys, shown]
  refine edited.trans ?_
  by_cases same : second.service = first.service
  · rw [if_pos same, if_pos ⟨rfl, same.symm⟩]
    rfl
  · rw [if_neg same, if_neg fun both => same both.2.symm]
    rfl

end Build

/-- After the build of a service logger the entry of the service has one handler, which writes to
the stream of the blueprint or to standard output and shows the keys of the service. It does not
propagate, and its level is that of the blueprint, or debug if it samples. Be it of a service or a
child, a build changes nothing else but names, parents and the bound sample rate. From then on the
keys that are bound through the logger are those of all loggers of its service in the registry, and
of no others. -/
theorem builds_change_their_service_alone (state : State) (reachable : state.Reachable)
    (blueprint : Blueprint) (draw : Draw) :
    let service := blueprint.settings.service
    let rate := blueprint.settings.sampleRate
    let after := state.build blueprint draw
    (blueprint.child = none → ∃ entry,
        (after.registry blueprint.registry).get? service = some entry ∧
        entry.handlers = [⟨some blueprint.outlet, some blueprint.logger.formatter, .notSet⟩] ∧
        entry.propagate = false ∧
        (rate.le .zero = true → entry.level = blueprint.settings.level) ∧
        (Binary64.one.le rate = true → entry.level = .debug) ∧
        (blueprint.settings.level = .debug → entry.level = .debug)) ∧
      OnlyBuilds blueprint state after ∧
      after.serviceKeys blueprint.registry service = blueprint.logger.boundKeys after ∧
      ∀ other : Logger, other.registry = blueprint.registry →
        (other.formatter = blueprint.logger.formatter ↔ other.service = service) ∧
          ∀ commands,
            let later := run after commands
            (later.registry blueprint.registry).isRegistered other.service = true →
            ∀ pairs, other.boundKeys (later.appendKeys blueprint.logger pairs) =
              if other.service = service then BoundKeys.append pairs (other.boundKeys later)
              else other.boundKeys later := by
  intro service rate after
  have linked := reachable_linked reachable
  have linkedAfter : (after.registry blueprint.registry).Linked :=
    perform_linked (linked _) (.build blueprint draw)
  have registered : (after.registry blueprint.registry).isRegistered service = true :=
    (build_registers (linked _) draw).1
  refine ⟨?_, build_only_builds linked blueprint draw, service_keys_of_registered registered, ?_⟩
  · intro isService
    obtain ⟨entry, found, handlers, propagate, level⟩ :=
      entry_of_built_service linked isService draw
    rw [blueprint.handler_eq] at handlers
    refine ⟨entry, found, handlers, propagate, ?_⟩
    rw [level]
    exact ⟨fun off => Blueprint.level_without_sampling off draw,
      fun sure => Blueprint.level_of_sure_sampling sure draw,
      fun verbose => Blueprint.level_of_debug verbose draw⟩
  · intro other sameRegistry
    refine ⟨formatter_eq_iff sameRegistry, ?_⟩
    intro commands later otherRegistered pairs
    have has : later.HasService blueprint.logger.registry other.service :=
      ⟨run_linked linkedAfter commands, otherRegistered⟩
    exact bound_keys_of_append sameRegistry has pairs

/-- The service with the empty name takes over the root, at debug since its rate is one. The logger
of `pay` keeps its keys, and no key that is bound through the root is shown by it. -/
theorem a_service_takes_over_the_root :
    let plainStream : Handler := ⟨some (.stream 0), none, .notSet⟩
    let pay : Blueprint := ⟨0, ⟨"pay", .info, .zero, false⟩, none, none⟩
    let root : Blueprint := ⟨0, ⟨"", .info, .one, false⟩, none, some 0⟩
    let state := run .initial [.openStream .reliable, .build pay .least, .register 0 "pay.db",
      .setHandlers 0 "" [plainStream, plainStream],
      .appendKeys pay.logger [("tenant", .string "north")]]
    let after := state.build root .least
    state.Reachable ∧ root.child = none ∧ Binary64.one.le root.settings.sampleRate = true ∧
      (after.registry 0).isRegistered "pay" = true ∧
      (∃ entry, (after.registry 0).get? "" = some entry ∧
        entry.handlers = [⟨some (.stream 0), some (.service 0 ""), .notSet⟩] ∧
        entry.propagate = false ∧ entry.level = .debug) ∧
      (∀ name, name ∈ (after.registry 0).names ↔ name ∈ (state.registry 0).names) ∧
      after.serviceKeys 0 "pay" = state.serviceKeys 0 "pay" ∧
      pay.logger.boundKeys (after.appendKeys root.logger [("tenant", .string "south")]) =
        pay.logger.boundKeys after := by
  intro plainStream pay root state after
  have reachable : state.Reachable := ⟨.initial, _, .inl rfl, rfl⟩
  have sure : Binary64.one.le root.settings.sampleRate = true := by decide
  have registered : (after.registry 0).isRegistered "pay" = true := by decide +kernel
  obtain ⟨own, only, _, shared⟩ := builds_change_their_service_alone state reachable root .least
  obtain ⟨entry, found, handlers, propagate, _, sampled, _⟩ := own rfl
  have names : ∀ name, name ∈ (after.registry 0).names ↔ name ∈ (state.registry 0).names := by
    intro name
    rw [only.names]
    apply or_iff_left
    rintro ⟨_, named, same | same⟩
    · exact named same
    · exact named same
  have apart : ¬((0 : Nat) = root.registry ∧ "pay" = root.settings.service) := by decide
  have unseen := (shared pay.logger rfl).2 [] registered [("tenant", .string "south")]
  exact ⟨reachable, rfl, sure, registered, ⟨entry, found, handlers, propagate, sampled sure⟩, names,
    only.other_keys 0 "pay" apart, unseen⟩

end State

end Logging

end FunctionKit
