import FunctionKit.Proofs.AfterCopying

/-!
# The service that is copied from

Copying passes over the source's service and all names below it. An entry with a level of its own
that keeps its records to itself is as far as anything below it looks, so what the copy changes
above such a service is never met from within.
-/

namespace FunctionKit.Logging

set_option autoImplicit false

namespace Registry

/-! ## Ways that end at a barrier -/

/-- On the way up from a name, what comes before an upper name lies below it. -/
theorem chain_splits_at_upper {registry : Registry} (linked : registry.Linked)
    {upper lower : String} (registered : registry.isRegistered upper = true)
    (place : lower = upper ∨ IsAbove upper lower) :
    ∃ below above, registry.chain lower = below ++ upper :: above ∧
      ∀ between ∈ below, IsAbove upper between := by
  rcases place with same | above
  · subst same
    by_cases atRoot : lower = rootName
    · exact ⟨[], [], by rw [chain, if_pos atRoot, atRoot, List.nil_append], by simp⟩
    · exact ⟨[], registry.uppers lower ++ [rootName], by rw [chain, if_neg atRoot]; rfl, by simp⟩
  · obtain ⟨below, rest, split⟩ := List.append_of_mem (mem_chain_of_above registered above)
    have shortens := chain_shortens linked lower
    rw [split] at shortens
    refine ⟨below, rest, split, ?_⟩
    intro between member
    have longer : upper.length < between.length :=
      (List.pairwise_append.mp shortens).2.2 between member upper List.mem_cons_self
    have onTheWay : between ∈ registry.chain lower := by
      rw [split]
      exact List.mem_append_left _ member
    rcases between_of_longer above onTheWay longer with same | ⟨under, _⟩
    · rw [same]
      exact above
    · exact under

section Barrier

variable {early late : Registry} {below above : List String} {upper : String}

/-- A set level hides all levels after it. -/
theorem first_set_up_to_set {before after : String → Level}
    (same : ∀ name ∈ below, after name = before name) (here : after upper = before upper)
    (levelled : before upper ≠ .notSet) :
    firstSet after (below ++ upper :: above) = firstSet before (below ++ upper :: above) := by
  induction below with
  | nil =>
      rw [List.nil_append, first_set_cons, first_set_cons, here, if_neg levelled, if_neg levelled]
  | cons name rest ih =>
      have first := same name List.mem_cons_self
      have further := ih fun other member => same other (List.mem_cons_of_mem _ member)
      rw [List.cons_append, first_set_cons, first_set_cons, first, further]

/-- What is gathered up to a barrier takes nothing from beyond it. -/
theorem gathered_up_to_barrier {β : Type} {before after : String → List β}
    (flags : ∀ name ∈ below, late.propagates name = early.propagates name)
    (items : ∀ name ∈ below, after name = before name)
    (lateStops : late.propagates upper = false) (earlyStops : early.propagates upper = false)
    (here : after upper = before upper) :
    (late.upToBarrier (below ++ upper :: above)).flatMap after =
      (early.upToBarrier (below ++ upper :: above)).flatMap before := by
  induction below with
  | nil =>
      rw [List.nil_append, up_to_barrier_cons, up_to_barrier_cons, lateStops, earlyStops,
        if_neg Bool.false_ne_true, List.flatMap_cons, List.flatMap_cons, here]
      rfl
  | cons name rest ih =>
      have flag := flags name List.mem_cons_self
      have item := items name List.mem_cons_self
      have further := ih (fun other member => flags other (List.mem_cons_of_mem _ member))
        fun other member => items other (List.mem_cons_of_mem _ member)
      rw [List.cons_append, up_to_barrier_cons, up_to_barrier_cons, flag, List.flatMap_cons,
        List.flatMap_cons, item]
      cases early.propagates name with
      | true => rw [if_pos rfl, if_pos rfl, further]
      | false => rfl

theorem reached_of_missing {registry : Registry} {name : String}
    (missing : registry.get? name = none) (record : Record) :
    registry.reached name record = [] := by
  have nobody : registry.audience name = [] := by
    simp [audience, lineage, climb, missing, handlersUpwards]
  rw [reached, nobody, ite_self]

theorem registered_of_levelled {registry : Registry} {name : String}
    (levelled : registry.levelOf name ≠ .notSet) : registry.isRegistered name = true := by
  cases found : registry.get? name with
  | none =>
      apply absurd _ levelled
      rw [levelOf, found]
      rfl
  | some entry =>
      rw [isRegistered, found]
      rfl

/-- From an entry with a level of its own that does not propagate downwards, deliveries depend on
this entry and those below it alone. -/
theorem delivers_as_within_barrier (earlyLinked : early.Linked) (lateLinked : late.Linked)
    (names : late.names = early.names)
    (same : ∀ name, name = upper ∨ IsAbove upper name → late.get? name = early.get? name)
    (levelled : early.levelOf upper ≠ .notSet) (closed : early.propagates upper = false)
    {lower : String} (place : lower = upper ∨ IsAbove upper lower) :
    DeliversAs early lower late lower := by
  obtain ⟨below, above, split, under⟩ :=
    chain_splits_at_upper earlyLinked (registered_of_levelled levelled) place
  have lateSplit : late.chain lower = below ++ upper :: above := by
    rw [chain_of_names names, split]
  have kept : ∀ name ∈ below, late.get? name = early.get? name :=
    fun name member => same name (.inr (under name member))
  have keptUpper : late.get? upper = early.get? upper := same upper (.inl rfl)
  have level : late.chainLevel lower = early.chainLevel lower := by
    change firstSet late.levelOf (late.chain lower) = firstSet early.levelOf (early.chain lower)
    rw [lateSplit, split]
    apply first_set_up_to_set
    · intro name member
      rw [levelOf, kept name member, levelOf]
    · rw [levelOf, keptUpper, levelOf]
    · exact levelled
  have gathered : ∀ {β : Type} {before after : String → List β},
      (∀ name, late.get? name = early.get? name → after name = before name) →
      (late.upToBarrier (late.chain lower)).flatMap after =
        (early.upToBarrier (early.chain lower)).flatMap before := by
    intro β before after agree
    rw [lateSplit, split]
    apply gathered_up_to_barrier
    · intro name member
      rw [propagates, kept name member, propagates]
    · exact fun name member => agree name (kept name member)
    · rw [propagates, keptUpper, ← propagates, closed]
    · exact closed
    · exact agree upper keptUpper
  have handlers : ∀ name, late.get? name = early.get? name →
      late.handlersOf name = early.handlersOf name := by
    intro name alike
    rw [handlersOf, alike, handlersOf]
  have positions : late.positions lower = early.positions lower := by
    apply gathered
    intro name alike
    rw [places, handlers name alike, places]
  have receivers : late.receivers lower = early.receivers lower := by
    rw [receivers_eq_handlers, receivers_eq_handlers]
    exact gathered handlers
  cases known : early.get? lower with
  | none =>
      have still : late.get? lower = none := by rw [same lower place, known]
      refine ⟨?_, positions, ?_⟩
      · rw [effective_level_of_missing still, effective_level_of_missing known]
      · intro record
        rw [reached_of_missing still, reached_of_missing known]
  | some held =>
      have registered : early.isRegistered lower = true := by
        rw [isRegistered, known]
        rfl
      have still : late.isRegistered lower = true := by
        rw [isRegistered, same lower place, known]
        rfl
      refine ⟨?_, positions, ?_⟩
      · rw [effective_level_by_names lateLinked still,
          effective_level_by_names earlyLinked registered, level]
      · intro record
        rw [reached_by_names lateLinked still, reached_by_names earlyLinked registered, level,
          receivers]

end Barrier

end Registry

namespace State

/-! ## What a copy passes over -/

section Copy

variable {state : State} {id : Nat} {source : Logger} {options : CopyOptions}

theorem copy_configuration_keeps_names (registry : Nat) :
    ((state.copyConfiguration id source options).registry registry).names =
      (state.registry registry).names := by
  cases held : source.handler? state with
  | none =>
      rw [copy_configuration_without_handler id options held]
      rfl
  | some handler =>
      have reconfigured := copy_configuration_reconfigures id options held
      by_cases same : registry = id
      · rw [same, reconfigured.names]
      · rw [reconfigured.other_registries registry same]

theorem copy_configuration_passes_over {name : String}
    (place : name = source.service ∨ IsAbove source.service name) (registry : Nat) :
    ((state.copyConfiguration id source options).registry registry).get? name =
      (state.registry registry).get? name := by
  cases held : source.handler? state with
  | none =>
      rw [copy_configuration_without_handler id options held]
      rfl
  | some handler =>
      have reconfigured := copy_configuration_reconfigures id options held
      by_cases same : registry = id
      · have notChosen : name ∉ (state.registry id).names.filter (options.selects source) := by
          intro chosen
          have picks := (options.selects_iff source name).mp (List.mem_filter.mp chosen).2
          exact place.elim picks.no_service picks.outside_service
        rw [same, reconfigured.entries, if_neg notChosen]
      · rw [reconfigured.other_registries registry same]

end Copy

theorem logger_within_service (logger : Logger) :
    logger.name = logger.service ∨ IsAbove logger.service logger.name := by
  rw [Logger.name]
  cases logger.child with
  | none => exact Or.inl rfl
  | some child => exact Or.inr ⟨child, by rw [childName, stem]⟩

/-- If the service of the source has a level of its own and keeps its records to itself, a copy
leaves all loggers of the service as they are: their handler, their level, and which handlers, in
which order, their records reach. What happens to the entries above the service plays no part. -/
theorem copying_leaves_its_own_service_alone (state : State) (reachable : state.Reachable)
    (id : Nat) (source : Logger) (options : CopyOptions)
    (levelled : (state.registry source.registry).levelOf source.service ≠ .notSet)
    (closed : (state.registry source.registry).propagates source.service = false) (logger : Logger)
    (sameRegistry : logger.registry = source.registry)
    (sameService : logger.service = source.service) :
    let after := state.copyConfiguration id source options
    logger.handler? after = logger.handler? state ∧ logger.level after = logger.level state ∧
      Registry.DeliversAs (state.registry logger.registry) logger.name
        (after.registry logger.registry) logger.name ∧
      ∀ occasion record, after.deliver occasion logger.registry logger.name record =
        ((state.registry logger.registry).reached logger.name record).foldl
          (handle occasion record) after := by
  intro after
  have linked := reachable_linked reachable logger.registry
  have linkedAfter : (after.registry logger.registry).Linked :=
    perform_linked linked (.copyConfiguration id source options)
  have passedOver : ∀ name, name = logger.service ∨ IsAbove logger.service name →
      (after.registry logger.registry).get? name = (state.registry logger.registry).get? name := by
    rw [sameService]
    exact fun _ place => copy_configuration_passes_over place logger.registry
  rw [← sameRegistry, ← sameService] at levelled closed
  have delivers : Registry.DeliversAs (state.registry logger.registry) logger.name
      (after.registry logger.registry) logger.name :=
    Registry.delivers_as_within_barrier linked linkedAfter
      (copy_configuration_keeps_names logger.registry) passedOver levelled closed
      (logger_within_service logger)
  refine ⟨?_, delivers.level, delivers, ?_⟩
  · rw [Logger.handler?, passedOver _ (.inl rfl), ← Logger.handler?]
  · intro occasion record
    rw [deliver_eq_handle_reached, delivers.reached]

/-- The copy sets `org` and `org.pay` above the service to another level and gives them its handler.
A child three names further down still writes to the handler of `org.pay.api.db` and then to that of
the service. -/
theorem deep_child_writes_as_before_the_copy :
    let settings : Settings := ⟨"org.pay.api", .info, .zero, false⟩
    let plainStream : Handler := ⟨some (.stream 0), none, .notSet⟩
    let service : Blueprint := ⟨0, settings, none, none⟩
    let child : Logger := ⟨0, "org.pay.api", some "db.pool.conn", false⟩
    let state := run .initial [.openStream .reliable, .build service .least,
      .build ⟨0, settings, some "db.pool.conn", none⟩ .least, .register 0 "org.pay.api.db",
      .setHandlers 0 "org.pay.api.db" [plainStream], .register 0 "org.pay", .register 0 "org",
      .setHandlers 0 "org" [plainStream], .setPropagate 0 "org.pay" false]
    let after := state.copyConfiguration 0 service.logger ⟨none, none, some .critical⟩
    let record : Record := ⟨.info, child.name, "open", "conn.rs:9", ⟨0, 0⟩, []⟩
    state.Reachable ∧ (after.registry 0).levelOf "org.pay" = .critical ∧
      (after.registry 0).handlersOf "org" = [service.handler] ∧
      child.handler? after = some service.handler ∧ child.level after = .info ∧
      (after.registry 0).reached child.name record = [plainStream, service.handler] := by
  intro settings plainStream service child state after record
  have reachable : state.Reachable := ⟨.initial, _, .inl rfl, rfl⟩
  obtain ⟨handler, level, delivers, _⟩ := copying_leaves_its_own_service_alone state reachable 0
    service.logger ⟨none, none, some .critical⟩ (by decide) (by decide) child rfl rfl
  have held : child.handler? state = some service.handler := by decide
  have found : child.level state = .info := by decide
  have heard : (state.registry 0).reached child.name record = [plainStream, service.handler] := by
    decide
  exact ⟨reachable, by decide, by decide, handler.trans held, level.trans found,
    (delivers.reached record).trans heard⟩

end State

end FunctionKit.Logging
