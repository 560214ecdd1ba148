import FunctionKit.Proofs.Runs

/-!
# What copying a configuration does

Copying reconfigures the selected names one after the other. Each step changes one entry in the
same way and reports it, so all steps together change exactly the selected entries.
-/

namespace FunctionKit.Logging

set_option autoImplicit false

/-- Which names are reconfigured: those asked for, without the source, its service, the names below
the service and the library's own. -/
structure CopyOptions.Picks (options : CopyOptions) (source : Logger) (name : String) : Prop where
  included : ∀ names, options.included = some names → name ∈ names
  not_excluded : ∀ names, options.excluded = some names → name ∉ names
  no_source : name ≠ source.name
  no_service : name ≠ source.service
  outside_service : ¬IsAbove source.service name
  no_package : name ≠ packageName
  outside_package : ¬IsAbove packageName name

theorem CopyOptions.admits_iff (options : CopyOptions) (name : String) :
    options.admits name = true ↔
      (∀ names, options.included = some names → name ∈ names) ∧
        ∀ names, options.excluded = some names → name ∉ names := by
  unfold admits
  rw [Bool.and_eq_true]
  apply and_congr
  · cases options.included <;> simp
  · cases options.excluded <;> simp

theorem CopyOptions.selects_iff (options : CopyOptions) (source : Logger) (name : String) :
    options.selects source name = true ↔ options.Picks source name := by
  unfold selects isPackageName
  simp only [Bool.and_eq_true, Bool.not_eq_true', Bool.eq_false_iff, ne_eq, Bool.or_eq_true,
    not_or, decide_eq_true_eq, admits_iff, is_below_iff]
  constructor
  · rintro ⟨⟨⟨⟨⟨included, notExcluded⟩, noSource⟩, noService⟩, outside⟩, noPackage, outsidePackage⟩
    exact ⟨included, notExcluded, noSource, noService, outside, noPackage, outsidePackage⟩
  · intro picks
    exact ⟨⟨⟨⟨⟨picks.included, picks.not_excluded⟩, picks.no_source⟩, picks.no_service⟩,
      picks.outside_service⟩, picks.no_package, picks.outside_package⟩

/-- An entry that has been given the handler and level of a source. -/
def Entry.configured (handler : Handler) (level : Level) (entry : Entry) : Entry :=
  { entry with handlers := [handler], level, propagate := false }

namespace State

/-- The entries of the chosen names are configured, each is reported, and nothing else changes. -/
structure Reconfigured (id : Nat) (handler : Handler) (level : Level) (chosen : List String)
    (before after : State) : Prop where
  entries : ∀ name, (after.registry id).get? name =
    if name ∈ chosen then
      ((before.registry id).get? name).map (Entry.configured handler level)
    else (before.registry id).get? name
  names : (after.registry id).names = (before.registry id).names
  other_registries : ∀ other, other ≠ id → after.registry other = before.registry other
  journal : after.journal =
    before.journal ++ chosen.map fun name => .reported ⟨.call, .reconfigured name level⟩
  formatters : after.formatters = before.formatters
  streams : after.streams = before.streams
  coldStart : after.coldStart = before.coldStart

section Steps

variable {id : Nat} {handler : Handler} {level : Level}

theorem configure_from_reconfigures (state : State) (name : String) :
    Reconfigured id handler level [name] state (state.configureFrom id handler level name) := by
  have registries : ∀ other, (state.configureFrom id handler level name).registry other =
      if id = other then
        (state.registry id).modify name (Entry.configured handler level)
      else state.registry other :=
    fun other => registry_setRegistry state id other _
  refine ⟨?_, ?_, ?_, rfl, rfl, rfl, rfl⟩
  · intro other
    rw [registries, if_pos rfl, Registry.get?_modify]
    by_cases same : name = other
    · rw [if_pos same, if_pos (List.mem_singleton.mpr same.symm)]
    · rw [if_neg same, if_neg fun member => same (List.mem_singleton.mp member).symm]
  · rw [registries, if_pos rfl, Registry.names_modify]
  · intro other apart
    rw [registries, if_neg apart.symm]

/-- Configuring an entry twice is configuring it once, so the names may meet again. -/
theorem Reconfigured.trans {early late : List String} {before middle after : State}
    (first : Reconfigured id handler level early before middle)
    (second : Reconfigured id handler level late middle after) :
    Reconfigured id handler level (early ++ late) before after := by
  refine ⟨?_, second.names.trans first.names, ?_, ?_, second.formatters.trans first.formatters,
    second.streams.trans first.streams, second.coldStart.trans first.coldStart⟩
  · intro name
    rw [second.entries, first.entries]
    by_cases inEarly : name ∈ early
    · rw [if_pos inEarly, if_pos (List.mem_append_left late inEarly)]
      by_cases inLate : name ∈ late
      · rw [if_pos inLate, Option.map_map]
        rfl
      · rw [if_neg inLate]
    · rw [if_neg inEarly]
      by_cases inLate : name ∈ late
      · rw [if_pos inLate, if_pos (List.mem_append_right early inLate)]
      · have nowhere : name ∉ early ++ late := by
          rw [List.mem_append]
          rintro (found | found)
          · exact inEarly found
          · exact inLate found
        rw [if_neg inLate, if_neg nowhere]
  · intro other apart
    rw [second.other_registries other apart, first.other_registries other apart]
  · rw [second.journal, first.journal, List.map_append, List.append_assoc]

theorem configure_all_reconfigures (chosen : List String) (state : State) :
    Reconfigured id handler level chosen state
      (chosen.foldl (fun current name => current.configureFrom id handler level name) state) := by
  induction chosen generalizing state with
  | nil =>
      exact ⟨fun _ => rfl, rfl, fun _ _ => rfl, (List.append_nil _).symm, rfl, rfl, rfl⟩
  | cons name rest ih =>
      exact (configure_from_reconfigures state name).trans (ih _)

/-- What configuring leaves alone in an entry is the same in every entry. -/
theorem Reconfigured.field_kept {chosen : List String} {before after : State} {α : Type}
    (reconfigured : Reconfigured id handler level chosen before after) (field : Entry → α)
    (ignores : ∀ entry, field (entry.configured handler level) = field entry)
    (registry : Nat) (name : String) :
    ((after.registry registry).get? name).map field =
      ((before.registry registry).get? name).map field := by
  by_cases same : registry = id
  · rw [same, reconfigured.entries]
    by_cases picked : name ∈ chosen
    · have ignored : field ∘ Entry.configured handler level = field := funext ignores
      rw [if_pos picked, Option.map_map, ignored]
    · rw [if_neg picked]
  · rw [reconfigured.other_registries registry same]

theorem Reconfigured.bound_keys {chosen : List String} {before after : State}
    (reconfigured : Reconfigured id handler level chosen before after) (formatter : Formatter) :
    after.boundKeys formatter = before.boundKeys formatter := by
  cases formatter with
  | plain => rfl
  | standalone number => simp only [boundKeys, reconfigured.formatters]
  | service registry name =>
      simp only [boundKeys, reconfigured.field_kept Entry.boundKeys (fun _ => rfl)]

end Steps

/-- With a handler to copy, exactly the picked registered names are configured and reported in
ascending order, at the asked level or the one that the source had before. Parents, bound keys and
names stay. Without a handler there is only a report. -/
theorem copying_configures_exactly_the_picked (state : State) (reachable : state.Reachable)
    (id : Nat) (source : Logger) (options : CopyOptions) :
    let after := state.copyConfiguration id source options
    (∀ handler, source.handler? state = some handler →
      ∃ chosen : List String, chosen.Pairwise (· < ·) ∧
        (∀ name, name ∈ chosen ↔
          name ∈ (state.registry id).names ∧ options.Picks source name) ∧
        Reconfigured id handler (options.level.getD (source.level state)) chosen state after ∧
        (∀ registry name, ((after.registry registry).get? name).map Entry.parent =
          ((state.registry registry).get? name).map Entry.parent) ∧
        (∀ formatter, after.boundKeys formatter = state.boundKeys formatter) ∧
        ∀ name level, (Diagnostic.reconfigured name level).severity = "DEBUG") ∧
      (source.handler? state = none →
        after = { state with
          journal := state.journal ++ [.reported ⟨.call, .nothingToCopy source.name⟩] }) := by
  intro after
  have linked := reachable_linked reachable id
  constructor
  · intro handler held
    let level := options.level.getD (source.level state)
    let chosen := (state.registry id).names.filter (options.selects source)
    have copied : after =
        chosen.foldl (fun current name => current.configureFrom id handler level name) state := by
      simp only [after, copyConfiguration, held]
      rfl
    have reconfigured : Reconfigured id handler level chosen state after := by
      rw [copied]
      exact configure_all_reconfigures chosen state
    refine ⟨chosen, ?_, ?_, reconfigured, ?_, reconfigured.bound_keys, fun _ _ => rfl⟩
    · exact ((Dict.ordered_iff_keys_ascend _).mp linked.ordered).filter _
    · intro name
      rw [List.mem_filter, CopyOptions.selects_iff]
    · exact reconfigured.field_kept Entry.parent fun _ => rfl
  · intro missing
    simp only [after, copyConfiguration, missing]
    rfl

/-- The service is quiet about its level and takes it from `pay`, which the copying changes. -/
theorem copying_to_an_upper_of_the_service :
    let service : Logger := ⟨0, "pay.api", none, false⟩
    let settings : Settings := ⟨"pay.api", .notSet, .zero, false⟩
    let state := run .initial [.build ⟨0, settings, none, none⟩ .least, .register 0 "pay",
      .setLevel 0 "pay" .error, .register 0 "pay.api.db", .register 0 "app",
      .register 0 "powertools_lambda.logging", .register 0 "powertools_lambdax"]
    let handler : Handler := ⟨some .standardOutput, some (.service 0 "pay.api"), .notSet⟩
    let options : CopyOptions := ⟨none, some ["app"], none⟩
    let after := state.copyConfiguration 0 service options
    state.Reachable ∧ service.handler? state = some handler ∧
      ∃ chosen, Reconfigured 0 handler .error chosen state after ∧
        chosen.Pairwise (· < ·) ∧ "pay" ∈ chosen ∧ "powertools_lambdax" ∈ chosen ∧
        "pay.api" ∉ chosen ∧ "pay.api.db" ∉ chosen ∧ "app" ∉ chosen ∧
        "powertools_lambda.logging" ∉ chosen := by
  intro service settings state handler options after
  have reachable : state.Reachable := ⟨.initial, _, .inl rfl, rfl⟩
  have held : service.handler? state = some handler := by decide
  have level : options.level.getD (service.level state) = .error := by decide
  obtain ⟨chosen, ascending, picked, reconfigured, _⟩ :=
    (copying_configures_exactly_the_picked state reachable 0 service options).1 handler held
  rw [level] at reconfigured
  have told : ∀ name, name ∈ chosen ↔
      name ∈ (state.registry 0).names ∧ options.selects service name = true := by
    intro name
    rw [picked, CopyOptions.selects_iff]
  refine ⟨reachable, held, chosen, reconfigured, ascending, ?_⟩
  simp only [told]
  decide

end State

end FunctionKit.Logging
