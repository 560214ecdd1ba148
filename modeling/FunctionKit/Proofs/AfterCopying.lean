import FunctionKit.Proofs.Routes

/-!
# What a copied configuration leads to

An entry that copying has configured hands its records to the copied handler alone, and so do the
entries below it that only let records through; no later registration changes that. Copying once
more finds the same names, the same handler and the same level, so it changes nothing.
-/

namespace FunctionKit.Logging

set_option autoImplicit false

namespace Registry

/-- The first level along some names that is set. -/
def firstSet (level : String → Level) (names : List String) : Level :=
  ((names.map level).find? fun level => level ≠ .notSet).getD .notSet

theorem first_set_cons (level : String → Level) (name : String) (rest : List String) :
    firstSet level (name :: rest) =
      if level name = .notSet then firstSet level rest else level name := by
  unfold firstSet
  rw [List.map_cons, List.find?_cons]
  by_cases unset : level name = .notSet
  · simp [unset]
  · simp [unset]

/-- The level that is found along some names is still found after some of them were set to it. -/
theorem first_set_of_spread {early late : String → Level} {found : Level} {names : List String}
    (was : firstSet early names = found)
    (spread : ∀ name ∈ names, late name = found ∨ late name = early name) :
    firstSet late names = found := by
  -- A name before the one that told the level may have been set, but then to the same level.
  induction names with
  | nil => exact was
  | cons name rest ih =>
      rw [first_set_cons] at was ⊢
      have here := spread name List.mem_cons_self
      have further := fun other member => spread other (List.mem_cons_of_mem _ member)
      by_cases unset : early name = .notSet
      · rw [if_pos unset] at was
        by_cases still : late name = .notSet
        · rw [if_pos still]
          exact ih was further
        · rw [if_neg still]
          exact here.resolve_right fun same => still (same.trans unset)
      · rw [if_neg unset] at was
        have same : late name = found := here.elim id fun kept => kept.trans was
        rw [if_neg (by rw [same, ← was]; exact unset), same]

theorem chain_of_names {first second : Registry} (sameNames : second.names = first.names)
    (name : String) : second.chain name = first.chain name := by
  unfold chain uppers
  rw [sameNames]

theorem effective_level_of_missing {registry : Registry} {name : String}
    (missing : registry.get? name = none) : registry.effectiveLevel name = .notSet := by
  simp [effectiveLevel, lineage, climb, missing, firstLevel]

/-- Linked registries with the same names and the same entries are the same. -/
theorem eq_of_entries {first second : Registry} (firstLinked : first.Linked)
    (secondLinked : second.Linked) (sameNames : second.names = first.names)
    (same : ∀ name, second.get? name = first.get? name) : second = first := by
  obtain ⟨root, named⟩ := first
  obtain ⟨otherRoot, otherNamed⟩ := second
  have sameRoot : otherRoot = root := Option.some.inj (same rootName)
  have sameNamed : otherNamed = named := by
    apply Dict.eq_of_look_up (Dict.keys_nodup firstLinked.ordered) sameNames
    intro name
    by_cases atRoot : name = rootName
    · rw [atRoot, Dict.get?_of_not_mem firstLinked.root_apart,
        Dict.get?_of_not_mem secondLinked.root_apart]
    · simpa only [get?, if_neg atRoot] using same name
  rw [sameRoot, sameNamed]

end Registry

namespace State

theorem perform_linked {state : State} {id : Nat} (linked : (state.registry id).Linked)
    (command : Command) : ((state.perform command).registry id).Linked :=
  ((state.perform_grows command).mono (fun _ _ makes => makes.keeps_parent) id).linked linked

theorem run_linked {state : State} {id : Nat} (linked : (state.registry id).Linked)
    (commands : List Command) : ((run state commands).registry id).Linked :=
  (run_keeps_parents commands state id).linked linked

section Copy

variable {state : State} {id : Nat} {source : Logger} {handler : Handler}

theorem copy_configuration_reconfigures (id : Nat) (options : CopyOptions)
    (held : source.handler? state = some handler) :
    Reconfigured id handler (options.level.getD (source.level state))
      ((state.registry id).names.filter (options.selects source)) state
      (state.copyConfiguration id source options) := by
  simp only [copyConfiguration, held]
  exact configure_all_reconfigures _ state

theorem copy_configuration_without_handler (id : Nat) (options : CopyOptions)
    (missing : source.handler? state = none) :
    state.copyConfiguration id source options =
      state.report .call (.nothingToCopy source.name) := by
  simp only [copyConfiguration, missing]

/-! ## Sole receivers -/

theorem route_of_configured {level : Level} {chosen : List String} {after : State}
    (reconfigured : Reconfigured id handler level chosen state after) {name : String}
    (member : name ∈ chosen) (registered : (state.registry id).isRegistered name = true) :
    (after.registry id).route name = .endsAt handler := by
  obtain ⟨entry, found⟩ := Option.isSome_iff_exists.mp registered
  rw [Registry.route, reconfigured.entries, if_pos member, found]
  rfl

end Copy

/-- Whatever is registered, dispatched, bound, logged or set as a level after a copy, the records
of a picked entry go to the copied handler once and nowhere else, and so do those of an entry below
it if it and all entries between have no handlers and propagate. -/
theorem picked_entries_have_a_sole_receiver (state : State) (reachable : state.Reachable) (id : Nat)
    (source : Logger) (options : CopyOptions) (handler : Handler)
    (held : source.handler? state = some handler) (target : String)
    (listed : target ∈ (state.registry id).names) (picked : options.Picks source target)
    (commands : List Command) (quiet : ∀ command ∈ commands, command.reroutes = false) :
    let after := run (state.copyConfiguration id source options) commands
    let registry := after.registry id
    registry.isRegistered target = true ∧ after.HandsOnlyTo id target handler ∧
      ∀ lower, registry.isRegistered lower = true → IsAbove target lower →
        (∀ between, registry.isRegistered between = true →
          between = lower ∨ IsAbove target between ∧ IsAbove between lower →
          registry.handlersOf between = [] ∧ registry.propagates between = true) →
        after.HandsOnlyTo id lower handler := by
  intro after registry
  have linked := reachable_linked reachable id
  have named := linked.not_root listed
  have registered := (Registry.mem_names_iff named).mp listed
  have linkedOnce : ((state.copyConfiguration id source options).registry id).Linked :=
    perform_linked linked (.copyConfiguration id source options)
  have linkedAfter : registry.Linked := run_linked linkedOnce commands
  have stays : registry.isRegistered target = true :=
    (run_keeps_parents (.copyConfiguration id source options :: commands) state id).is_registered
      linked registered
  have chosen : target ∈ (state.registry id).names.filter (options.selects source) :=
    List.mem_filter.mpr ⟨listed, (options.selects_iff source target).mpr picked⟩
  have ends : registry.route target = .endsAt handler := by
    rw [run_keeps_routes quiet linkedOnce target]
    exact route_of_configured (copy_configuration_reconfigures id options held) chosen registered
  -- The flag cleared by the copy keeps everything above the target out, whatever it is.
  have audience : registry.audience target = [handler] := by
    rw [Registry.audience_of_end linkedAfter stays (by rw [ends]; rfl), ends]
    rfl
  refine ⟨stays, hands_only_to_of_audience audience, ?_⟩
  intro lower lowerRegistered above silent
  apply hands_only_to_of_audience
  rw [← audience]
  apply Registry.audience_of_through_between linkedAfter stays lowerRegistered above
  intro between known place
  obtain ⟨nobody, passes⟩ := silent between known place
  exact Registry.route_of_silent known nobody passes

/-- The root, `app` and `app.db` had handlers, copying gave `app` the same handler as `app.db`, and
`app.db.pool` is put between `app.db` and `app.db.pool.conn` in the end. -/
theorem pool_writes_to_the_copied_handler_alone :
    let plainStream : Handler := ⟨some (.stream 0), none, .notSet⟩
    let service : Logger := ⟨0, "pay", none, false⟩
    let state := run .initial [.openStream .reliable,
      .build ⟨0, ⟨"pay", .info, .zero, false⟩, none, none⟩ .least, .register 0 "app.db",
      .register 0 "app", .setHandlers 0 "" [plainStream], .setHandlers 0 "app" [plainStream],
      .addHandler 0 "app.db" plainStream]
    let handler : Handler := ⟨some .standardOutput, some (.service 0 "pay"), .notSet⟩
    let options : CopyOptions := ⟨none, none, none⟩
    let commands : List Command := [.register 0 "app.db.pool.conn",
      .setLevel 0 "app.db.pool.conn" .debug, .register 0 "app.db.pool"]
    let after := run (state.copyConfiguration 0 service options) commands
    let registry := after.registry 0
    state.Reachable ∧ service.handler? state = some handler ∧
      "app.db" ∈ (state.registry 0).names ∧ options.Picks service "app.db" ∧
      (∀ command ∈ commands, command.reroutes = false) ∧
      registry.handlersOf "app" = [handler] ∧ registry.handlersOf "" = [plainStream] ∧
      after.HandsOnlyTo 0 "app.db" handler ∧
      (registry.lineage "app.db.pool.conn").map Prod.fst =
        ["app.db.pool.conn", "app.db.pool", "app.db", "app", ""] ∧
      after.HandsOnlyTo 0 "app.db.pool.conn" handler := by
  intro plainStream service state handler options commands after registry
  have reachable : state.Reachable := ⟨.initial, _, .inl rfl, rfl⟩
  have held : service.handler? state = some handler := by decide
  have listed : "app.db" ∈ (state.registry 0).names := by decide
  have picked : options.Picks service "app.db" :=
    (options.selects_iff service "app.db").mp (by decide)
  have quiet : ∀ command ∈ commands, command.reroutes = false := by decide
  obtain ⟨_, sole, below⟩ := picked_entries_have_a_sole_receiver state reachable 0 service options
    handler held "app.db" listed picked commands quiet
  have above : IsAbove "app.db" "app.db.pool.conn" :=
    (is_below_iff "app.db.pool.conn" "app.db").mp (by decide)
  have silent : ∀ between, registry.isRegistered between = true →
      between = "app.db.pool.conn" ∨
        IsAbove "app.db" between ∧ IsAbove between "app.db.pool.conn" →
      registry.handlersOf between = [] ∧ registry.propagates between = true := by
    intro between registered place
    have longer : "app.db".length < between.length := by
      rcases place with rfl | ⟨under, _⟩
      · exact above.shorter
      · exact under.shorter
    have named : between ≠ rootName := by
      rintro rfl
      exact Nat.not_lt_zero _ longer
    have known := (Registry.mem_names_iff named).mpr registered
    have all : ∀ name ∈ registry.names, "app.db".length < name.length →
        registry.handlersOf name = [] ∧ registry.propagates name = true := by decide
    exact all between known longer
  exact ⟨reachable, held, listed, picked, quiet, by decide, by decide, sole, by decide,
    below "app.db.pool.conn" (by decide) above silent⟩

/-! ## Copying once more -/

section Again

variable {state after : State} {id : Nat} {source : Logger} {handler : Handler}
  {chosen : List String}

theorem source_handler_stays {level : Level}
    (reconfigured : Reconfigured id handler level chosen state after)
    (apart : source.service ∉ chosen) : source.handler? after = source.handler? state := by
  unfold Logger.handler?
  by_cases same : source.registry = id
  · rw [same, reconfigured.entries, if_neg apart]
  · rw [reconfigured.other_registries _ same]

/-- The level that the source found is the one it still finds, even if it comes from an entry that
was given this level only now. -/
theorem source_level_stays (linked : (state.registry id).Linked)
    (linkedAfter : (after.registry id).Linked)
    (reconfigured : Reconfigured id handler (source.level state) chosen state after) :
    source.level after = source.level state := by
  by_cases same : source.registry = id
  · have level : source.level state = (state.registry id).effectiveLevel source.name := by
      rw [Logger.level, same]
    cases found : (state.registry id).get? source.name with
    | none =>
        have missing : (after.registry id).get? source.name = none := by
          rw [reconfigured.entries, found]
          exact ite_self _
        rw [level, Logger.level, same, Registry.effective_level_of_missing missing,
          Registry.effective_level_of_missing found]
    | some entry =>
        have registered : (state.registry id).isRegistered source.name = true := by
          rw [Registry.isRegistered, found]
          rfl
        have still : (after.registry id).isRegistered source.name = true := by
          rw [Registry.isRegistered, reconfigured.entries, found]
          split <;> rfl
        have was : Registry.firstSet (state.registry id).levelOf
            ((state.registry id).chain source.name) = source.level state := by
          rw [level, Registry.effective_level_by_names linked registered]
          rfl
        have finds : source.level after = Registry.firstSet (after.registry id).levelOf
            ((state.registry id).chain source.name) := by
          rw [Logger.level, same, Registry.effective_level_by_names linkedAfter still,
            Registry.chainLevel, Registry.chain_of_names reconfigured.names]
          rfl
        rw [finds]
        apply Registry.first_set_of_spread was
        intro name member
        have known := Registry.chain_is_registered linked registered name member
        obtain ⟨held, here⟩ := Option.isSome_iff_exists.mp known
        unfold Registry.levelOf
        rw [reconfigured.entries]
        by_cases picked : name ∈ chosen
        · rw [if_pos picked, here]
          exact Or.inl rfl
        · rw [if_neg picked]
          exact Or.inr rfl
  · rw [Logger.level, reconfigured.other_registries _ same]
    rfl

theorem Reconfigured.again {level : Level} {twice : State}
    (first : Reconfigured id handler level chosen state after)
    (second : Reconfigured id handler level chosen after twice) (name : String) :
    (twice.registry id).get? name = (after.registry id).get? name := by
  rw [second.entries]
  by_cases picked : name ∈ chosen
  · rw [if_pos picked, first.entries, if_pos picked, Option.map_map]
    rfl
  · rw [if_neg picked]

end Again

/-- A second copy with the same source and options leaves all registries and bound keys as the
first one left them. Without a level in the options both copies use the level that the source had
before the first one. -/
theorem copying_again_changes_nothing (state : State) (reachable : state.Reachable) (id : Nat)
    (source : Logger) (options : CopyOptions) :
    let once := state.copyConfiguration id source options
    let twice := once.copyConfiguration id source options
    (∀ other, twice.registry other = once.registry other) ∧
      (∀ formatter, twice.boundKeys formatter = once.boundKeys formatter) ∧
      (options.level = none → source.level once = source.level state) := by
  intro once twice
  have linked := reachable_linked reachable id
  have linkedOnce : (once.registry id).Linked :=
    perform_linked linked (.copyConfiguration id source options)
  have linkedTwice : (twice.registry id).Linked :=
    perform_linked linkedOnce (.copyConfiguration id source options)
  cases held : source.handler? state with
  | none =>
      -- without a handler both copies only report that there is none
      have first : once = state.report .call (.nothingToCopy source.name) :=
        copy_configuration_without_handler id options held
      have second : twice = once.report .call (.nothingToCopy source.name) := by
        apply copy_configuration_without_handler
        rw [first]
        exact held
      rw [second, first]
      exact ⟨fun _ => rfl, fun _ => rfl, fun _ => rfl⟩
  | some handler =>
      have first := copy_configuration_reconfigures id options held
      have service : source.service ∉ (state.registry id).names.filter (options.selects source) := by
        intro member
        have picks := (options.selects_iff source _).mp (List.mem_filter.mp member).2
        exact picks.no_service rfl
      have heldOnce : source.handler? once = some handler := by
        rw [source_handler_stays first service]
        exact held
      have level : options.level.getD (source.level once) =
          options.level.getD (source.level state) := by
        cases asked : options.level with
        | some level => rfl
        | none =>
            rw [asked] at first
            exact source_level_stays linked linkedOnce first
      have second := copy_configuration_reconfigures id options heldOnce
      rw [level, first.names] at second
      refine ⟨?_, second.bound_keys, ?_⟩
      · intro other
        by_cases same : other = id
        · rw [same]
          exact Registry.eq_of_entries linkedOnce linkedTwice second.names (first.again second)
        · exact second.other_registries other same
      · intro unasked
        rw [unasked] at level
        exact level

/-- The child logger `org.pay.api.worker` finds its level at `org`, which the first copy
reconfigures together with `org.pay` on the way. -/
theorem second_copy_for_a_child_with_inherited_level :
    let child : Logger := ⟨0, "org.pay.api", some "worker", false⟩
    let settings : Settings := ⟨"org.pay.api", .notSet, .zero, false⟩
    let state := run .initial [.build ⟨0, settings, none, none⟩ .least,
      .build ⟨0, settings, some "worker", none⟩ .least, .register 0 "org.pay",
      .register 0 "org", .setLevel 0 "org" .error]
    let options : CopyOptions := ⟨none, none, none⟩
    let once := state.copyConfiguration 0 child options
    let twice := once.copyConfiguration 0 child options
    state.Reachable ∧ child.level state = .error ∧
      (once.registry 0).propagates "org" = false ∧ (once.registry 0).levelOf "org.pay" = .error ∧
      (∀ other, twice.registry other = once.registry other) ∧ child.level once = .error := by
  intro child settings state options once twice
  have reachable : state.Reachable := ⟨.initial, _, .inl rfl, rfl⟩
  obtain ⟨registries, _, level⟩ := copying_again_changes_nothing state reachable 0 child options
  have found : child.level state = .error := by decide
  exact ⟨reachable, found, by decide, by decide, registries, (level rfl).trans found⟩

end State

end FunctionKit.Logging
