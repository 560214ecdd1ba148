import FunctionKit.Proofs.EditedKeys
import FunctionKit.Proofs.OwnService
import FunctionKit.Proofs.Services

/-!
# How far the level of a service reaches

A logger sets the level of its service's entry, also where it finds its own level somewhere else.
The level is found from the entries below that come to the service before any other level; all
others find what they found before.
-/

namespace FunctionKit.Logging

set_option autoImplicit false

namespace Registry

/-- A name finds its level at an upper one, if that has a level: the upper name is on its way to the
root, and no entry before it has a level. -/
structure LevelReaches (registry : Registry) (upper name : String) : Prop where
  on_the_way : name = upper ∨ IsAbove upper name ∨ upper = rootName
  unset_before : ∀ between ∈ (registry.chain name).takeWhile (· ≠ upper),
    registry.levelOf between = .notSet

section Chain

variable {registry : Registry} {upper name : String}

theorem name_mem_chain (registry : Registry) (name : String) : name ∈ registry.chain name := by
  unfold chain
  by_cases atRoot : name = rootName
  · rw [if_pos atRoot, atRoot]
    exact List.mem_singleton_self _
  · rw [if_neg atRoot, List.cons_append]
    exact List.mem_cons_self

theorem root_mem_chain (registry : Registry) (name : String) : rootName ∈ registry.chain name := by
  unfold chain
  split
  · exact List.mem_singleton_self _
  · exact List.mem_append_right _ (List.mem_singleton_self _)

/-- The registered names on a way to the root are told by names alone. -/
theorem mem_chain_iff (registered : registry.isRegistered upper = true) :
    upper ∈ registry.chain name ↔ name = upper ∨ IsAbove upper name ∨ upper = rootName := by
  constructor
  · intro member
    unfold chain at member
    split at member
    · exact .inr (.inr (List.mem_singleton.mp member))
    · simp only [List.cons_append, List.mem_cons, List.mem_append, List.not_mem_nil, or_false,
        mem_uppers] at member
      rcases member with same | ⟨_, above⟩ | last
      · exact .inl same.symm
      · exact .inr (.inl above)
      · exact .inr (.inr last)
  · rintro (same | above | last)
    · rw [same]
      exact name_mem_chain registry upper
    · exact mem_chain_of_above registered above
    · rw [last]
      exact root_mem_chain registry name

end Chain

/-! ## Setting one level -/

/-- Along some names the level of one of them was set: it is what is found if nothing before it has
a level, and otherwise what was found before is found again. -/
theorem first_set_after_setting {early late : String → Level} {upper : String}
    (set : late upper ≠ .notSet) (others : ∀ name, name ≠ upper → late name = early name)
    (names : List String) :
    (upper ∈ names → (∀ between ∈ names.takeWhile (· ≠ upper), early between = .notSet) →
        firstSet late names = late upper) ∧
      (¬(upper ∈ names ∧ ∀ between ∈ names.takeWhile (· ≠ upper), early between = .notSet) →
        firstSet late names = firstSet early names) := by
  induction names with
  | nil => exact ⟨fun member => absurd member List.not_mem_nil, fun _ => rfl⟩
  | cons name rest ih =>
      obtain ⟨found, kept⟩ := ih
      rw [first_set_cons late, first_set_cons early]
      by_cases here : name = upper
      · subst here
        rw [if_neg set]
        refine ⟨fun _ _ => rfl, fun missed => absurd ⟨List.mem_cons_self, ?_⟩ missed⟩
        simp
      · have passes : (name :: rest).takeWhile (· ≠ upper) = name :: rest.takeWhile (· ≠ upper) :=
          List.takeWhile_cons_of_pos (by simpa using here)
        have member : upper ∈ name :: rest ↔ upper ∈ rest := by
          rw [List.mem_cons]
          exact or_iff_right (Ne.symm here)
        rw [passes, member, others name here, List.forall_mem_cons]
        by_cases unset : early name = .notSet
        · rw [if_pos unset, if_pos unset]
          exact ⟨fun listed silent => found listed silent.2,
            fun missed => kept fun both => missed ⟨both.1, unset, both.2⟩⟩
        · rw [if_neg unset, if_neg unset]
          exact ⟨fun _ silent => absurd silent.1 unset, fun _ => rfl⟩

theorem level_of_modify {registry : Registry} {upper : String}
    (registered : registry.isRegistered upper = true) (level : Level) (name : String) :
    (registry.modify upper fun entry => { entry with level }).levelOf name =
      if name = upper then level else registry.levelOf name := by
  unfold levelOf
  rw [get?_modify]
  by_cases here : upper = name
  · obtain ⟨entry, found⟩ := Option.isSome_iff_exists.mp registered
    rw [if_pos here, if_pos here.symm, ← here, found]
    rfl
  · rw [if_neg here, if_neg (Ne.symm here)]

theorem effective_level_of_modify {registry : Registry} (linked : registry.Linked)
    {upper name : String} (registered : registry.isRegistered upper = true)
    (named : registry.isRegistered name = true) {level : Level} (set : level ≠ .notSet) :
    let after := registry.modify upper fun entry => { entry with level }
    (registry.LevelReaches upper name → after.effectiveLevel name = level) ∧
      (¬registry.LevelReaches upper name →
        after.effectiveLevel name = registry.effectiveLevel name) := by
  intro after
  have linkedAfter : after.Linked := modify_linked linked upper fun _ => rfl
  have namedAfter : after.isRegistered name = true := by
    rw [isRegistered, get?_modify_map, Option.isSome_map]
    exact named
  have levels : ∀ other, after.levelOf other =
      if other = upper then level else registry.levelOf other := level_of_modify registered level
  have own : after.levelOf upper = level := by rw [levels, if_pos rfl]
  have finds : after.effectiveLevel name = firstSet after.levelOf (registry.chain name) := by
    rw [effective_level_by_names linkedAfter namedAfter, chainLevel,
      chain_of_names (names_modify registry upper _)]
    rfl
  have others : ∀ other, other ≠ upper → after.levelOf other = registry.levelOf other :=
    fun other apart => by rw [levels, if_neg apart]
  obtain ⟨found, kept⟩ :=
    first_set_after_setting (by rw [own]; exact set) others (registry.chain name)
  rw [finds, effective_level_by_names linked named]
  constructor
  · intro reaches
    rw [found ((mem_chain_iff registered).mpr reaches.on_the_way) reaches.unset_before, own]
  · intro hidden
    apply kept
    rintro ⟨member, unset⟩
    exact hidden ⟨(mem_chain_iff registered).mp member, unset⟩

end Registry

namespace State

section ServiceLevel

variable (state : State) (logger : Logger) (level : Level)

theorem registry_after_level (id : Nat) :
    (state.setServiceLevel logger level).registry id =
      if logger.registry = id then
        (state.registry logger.registry).modify logger.service fun entry => { entry with level }
      else state.registry id :=
  registry_modify_entry state _ id _ _

theorem entry_after_level (id : Nat) (name : String) :
    ((state.setServiceLevel logger level).registry id).get? name =
      ((state.registry id).get? name).map fun entry =>
        if id = logger.registry ∧ name = logger.service then { entry with level } else entry := by
  rw [registry_after_level]
  by_cases same : logger.registry = id
  · subst same
    rw [if_pos rfl, Registry.get?_modify_map]
    simp only [true_and]
  · rw [if_neg same]
    simp only [Ne.symm same, false_and, if_false, Option.map_id']

theorem bound_keys_after_level (formatter : Formatter) :
    (state.setServiceLevel logger level).boundKeys formatter = state.boundKeys formatter := by
  cases formatter with
  | plain => rfl
  | standalone id => rfl
  | service id name =>
      have keeps : ∀ entry : Entry, Entry.boundKeys { entry with level } = entry.boundKeys :=
        fun _ => rfl
      have held := held_keys_modify_entry state logger.registry id logger.service name keeps
      exact congrArg (Option.getD · []) held

end ServiceLevel

/-- Through any logger of a service a level is set for the entry of the service. From then on it is
the level of the registered names that come to the service before any other level. All other names
keep the level that they found, and nothing but the level of the service's entry is changed. -/
theorem service_levels_are_found_from_below (state : State) (reachable : state.Reachable)
    (logger : Logger)
    (registered : (state.registry logger.registry).isRegistered logger.service = true)
    (level : Level) (set : level ≠ .notSet) :
    let registry := state.registry logger.registry
    let after := state.setServiceLevel logger level
    (∀ name, registry.isRegistered name = true →
        (registry.LevelReaches logger.service name →
          (after.registry logger.registry).effectiveLevel name = level) ∧
        (¬registry.LevelReaches logger.service name →
          (after.registry logger.registry).effectiveLevel name = registry.effectiveLevel name)) ∧
      (∀ id, id ≠ logger.registry → after.registry id = state.registry id) ∧
      (∀ id, (after.registry id).names = (state.registry id).names) ∧
      (∀ id name, (after.registry id).get? name =
        ((state.registry id).get? name).map fun entry =>
          if id = logger.registry ∧ name = logger.service then { entry with level } else entry) ∧
      ∀ formatter, after.boundKeys formatter = state.boundKeys formatter := by
  intro registry after
  have linked : registry.Linked := reachable_linked reachable logger.registry
  have own : after.registry logger.registry =
      registry.modify logger.service fun entry => { entry with level } := by
    rw [registry_after_level, if_pos rfl]
  refine ⟨?_, ?_, fun id => names_modify_entry state _ id _ _, entry_after_level state logger level,
    bound_keys_after_level state logger level⟩
  · intro name named
    rw [own]
    exact Registry.effective_level_of_modify linked registered named set
  · intro id apart
    rw [registry_after_level, if_neg (Ne.symm apart)]

/-- The level is set through the child `pay.api.worker`, which finds it at `pay` past `pay.api`. The
level of `pay.db` hides it from `pay.db.pool`, and `payroll` is not below. -/
theorem a_child_sets_the_level_of_its_service :
    let settings : Settings := ⟨"pay", .info, .zero, false⟩
    let worker : Logger := ⟨0, "pay", some "api.worker", false⟩
    let state := run .initial [.build ⟨0, settings, some "api.worker", none⟩ .least,
      .build ⟨0, settings, none, none⟩ .least, .register 0 "pay.api", .register 0 "pay.db.pool",
      .register 0 "pay.db", .setLevel 0 "pay.db" .error, .register 0 "payroll"]
    let after := state.setServiceLevel worker .debug
    state.Reachable ∧ (state.registry 0).isRegistered "pay" = true ∧ worker.level state = .info ∧
      worker.level after = .debug ∧ (after.registry 0).levelOf "pay.api.worker" = .notSet ∧
      (after.registry 0).effectiveLevel "pay.db.pool" = .error ∧
      (after.registry 0).effectiveLevel "payroll" = .warning := by
  intro settings worker state after
  have reachable : state.Reachable := ⟨.initial, _, .inl rfl, rfl⟩
  have registered : (state.registry 0).isRegistered "pay" = true := by decide
  obtain ⟨levels, _⟩ :=
    service_levels_are_found_from_below state reachable worker registered .debug (by decide)
  have reaches : (state.registry 0).LevelReaches "pay" "pay.api.worker" :=
    ⟨.inr (.inl ⟨"api.worker", by decide⟩), by decide⟩
  have hidden : ¬(state.registry 0).LevelReaches "pay" "pay.db.pool" := by
    intro reaches
    exact absurd (reaches.unset_before "pay.db" (by decide)) (by decide)
  have apart : ¬(state.registry 0).LevelReaches "pay" "payroll" := by
    rintro ⟨same | above | atRoot, _⟩
    · exact absurd same (by decide)
    · exact absurd ((is_below_iff "payroll" "pay").mpr above) (by decide)
    · exact absurd atRoot (by decide)
  have pool := (levels "pay.db.pool" (by decide)).2 hidden
  have payroll := (levels "payroll" (by decide)).2 apart
  exact ⟨reachable, registered, by decide, (levels "pay.api.worker" (by decide)).1 reaches,
    by decide, pool.trans (by decide), payroll.trans (by decide)⟩

end State

end FunctionKit.Logging
