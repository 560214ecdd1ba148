import FunctionKit.Proofs.Runs

/-!
# Who receives a record

The level that decides and the handlers that receive are read off the chain of names of an entry:
the first level that is set, and the handlers of the entries up to the first one that keeps its
records to itself.
-/

namespace FunctionKit.Logging

set_option autoImplicit false

namespace Registry

def levelOf (registry : Registry) (name : String) : Level :=
  ((registry.get? name).map Entry.level).getD .notSet

def handlersOf (registry : Registry) (name : String) : List Handler :=
  ((registry.get? name).map Entry.handlers).getD []

def propagates (registry : Registry) (name : String) : Bool :=
  ((registry.get? name).map Entry.propagate).getD false

/-- The first level along the chain of a name that is set. -/
def chainLevel (registry : Registry) (name : String) : Level :=
  (((registry.chain name).map registry.levelOf).find? fun level => level ≠ .notSet).getD .notSet

/-- The names up to and with the first one whose entry does not propagate. -/
def upToBarrier (registry : Registry) (names : List String) : List String :=
  names.takeWhile registry.propagates ++ (names.dropWhile registry.propagates).take 1

/-- The handlers of an entry, each as the name of the entry and an index. -/
def places (registry : Registry) (name : String) : List (String × Nat) :=
  (List.range (registry.handlersOf name).length).map fun index => (name, index)

/-- The places that a record passes on its way up. -/
def positions (registry : Registry) (name : String) : List (String × Nat) :=
  (registry.upToBarrier (registry.chain name)).flatMap registry.places

def handlerAt (registry : Registry) (position : String × Nat) : Option Handler :=
  (registry.handlersOf position.1)[position.2]?

def receivers (registry : Registry) (name : String) : List Handler :=
  (registry.positions name).filterMap registry.handlerAt

theorem first_level_of_names {registry : Registry} {names : List String}
    (registered : ∀ name ∈ names, registry.isRegistered name = true) :
    firstLevel (names.filterMap registry.entryAt) =
      ((names.map registry.levelOf).find? fun level => level ≠ .notSet).getD .notSet := by
  induction names with
  | nil => rfl
  | cons name rest ih =>
      obtain ⟨entry, found⟩ := Option.isSome_iff_exists.mp (registered name List.mem_cons_self)
      have tail := ih fun other member => registered other (List.mem_cons_of_mem _ member)
      have here : registry.entryAt name = some (name, entry) := by simp [entryAt, found]
      have level : registry.levelOf name = entry.level := by simp [levelOf, found]
      rw [List.filterMap_cons_some here, List.map_cons, List.find?_cons, level]
      by_cases unset : entry.level = .notSet
      · simp [firstLevel, unset, tail]
      · simp [firstLevel, unset]

theorem up_to_barrier_cons (registry : Registry) (name : String) (rest : List String) :
    registry.upToBarrier (name :: rest) =
      name :: if registry.propagates name then registry.upToBarrier rest else [] := by
  unfold upToBarrier
  cases flag : registry.propagates name with
  | true =>
      rw [List.takeWhile_cons_of_pos flag, List.dropWhile_cons_of_pos flag, if_pos rfl]
      rfl
  | false =>
      have stops : ¬registry.propagates name = true := by simp [flag]
      rw [List.takeWhile_cons_of_neg stops, List.dropWhile_cons_of_neg stops,
        if_neg Bool.false_ne_true]
      rfl

theorem handlers_upwards_of_names {registry : Registry} {names : List String}
    (registered : ∀ name ∈ names, registry.isRegistered name = true) :
    handlersUpwards (names.filterMap registry.entryAt) =
      (registry.upToBarrier names).flatMap registry.handlersOf := by
  induction names with
  | nil => rfl
  | cons name rest ih =>
      obtain ⟨entry, found⟩ := Option.isSome_iff_exists.mp (registered name List.mem_cons_self)
      have tail := ih fun other member => registered other (List.mem_cons_of_mem _ member)
      have here : registry.entryAt name = some (name, entry) := by simp [entryAt, found]
      have handlers : registry.handlersOf name = entry.handlers := by simp [handlersOf, found]
      have flag : registry.propagates name = entry.propagate := by simp [propagates, found]
      rw [List.filterMap_cons_some here, handlersUpwards, tail, up_to_barrier_cons, flag,
        List.flatMap_cons, handlers]
      cases entry.propagate <;> rfl

theorem effective_level_by_names {registry : Registry} (linked : registry.Linked) {name : String}
    (registered : registry.isRegistered name = true) :
    registry.effectiveLevel name = registry.chainLevel name := by
  unfold effectiveLevel
  rw [lineage_eq_chain linked registered]
  exact first_level_of_names (chain_is_registered linked registered)

theorem audience_by_names {registry : Registry} (linked : registry.Linked) {name : String}
    (registered : registry.isRegistered name = true) :
    registry.audience name =
      (registry.upToBarrier (registry.chain name)).flatMap registry.handlersOf := by
  unfold audience
  rw [lineage_eq_chain linked registered]
  exact handlers_upwards_of_names (chain_is_registered linked registered)

theorem items_at_indices {α : Type} (items : List α) :
    (List.range items.length).filterMap (fun index => items[index]?) = items := by
  induction items with
  | nil => rfl
  | cons head rest ih =>
      rw [List.length_cons, List.range_succ_eq_map, List.filterMap_cons, List.filterMap_map]
      exact congrArg (head :: ·) ih

theorem receivers_eq_handlers (registry : Registry) (name : String) :
    registry.receivers name =
      (registry.upToBarrier (registry.chain name)).flatMap registry.handlersOf := by
  unfold receivers positions
  rw [List.filterMap_flatMap]
  congr 1
  funext upper
  rw [places, List.filterMap_map]
  exact items_at_indices (registry.handlersOf upper)

theorem up_to_barrier_sublist (registry : Registry) (names : List String) :
    (registry.upToBarrier names).Sublist names := by
  conv_rhs => rw [← List.takeWhile_append_dropWhile (p := registry.propagates) (l := names)]
  exact (List.take_sublist _ _).append_left _

theorem chain_nodup {registry : Registry} (linked : registry.Linked) (name : String) :
    (registry.chain name).Nodup :=
  nodup_of_shorten (chain_shortens linked name)

theorem positions_nodup {registry : Registry} (linked : registry.Linked) (name : String) :
    (registry.positions name).Nodup := by
  unfold positions
  rw [List.nodup_flatMap]
  -- within an entry the indices differ, between entries the names
  constructor
  · intro upper _
    apply List.nodup_range.map
    intro left right same
    exact congrArg Prod.snd same
  · apply ((chain_nodup linked name).sublist (registry.up_to_barrier_sublist _)).imp
    intro first second apart position left right
    obtain ⟨_, _, rfl⟩ := List.mem_map.mp left
    obtain ⟨_, _, same⟩ := List.mem_map.mp right
    exact apart (congrArg Prod.fst same).symm

end Registry

namespace State

/-- The record of an entry is judged by the first level set along the names of its chain. If it
passes, it is handed to the handlers of these names in their order, up to the first name that does
not propagate and to none of them twice, and each outlet takes the lines of its handlers. -/
theorem deliveries_are_told_by_names (state : State) (reachable : state.Reachable) (id : Nat)
    (name : String) (registered : (state.registry id).isRegistered name = true)
    (occasion : Occasion) (record : Record) :
    (state.registry id).effectiveLevel name = (state.registry id).chainLevel name ∧
      ((state.registry id).positions name).Nodup ∧
      (record.level.value < ((state.registry id).chainLevel name).value →
        state.deliver occasion id name record = state) ∧
      (((state.registry id).chainLevel name).value ≤ record.level.value →
        state.deliver occasion id name record =
            ((state.registry id).receivers name).foldl (handle occasion record) state ∧
          ∀ outlet, (state.deliver occasion id name record).contents outlet =
            state.contents outlet ++ state.accepted outlet
              (((state.registry id).receivers name).flatMap (state.sent record outlet))) := by
  have linked := reachable_linked reachable id
  have level := Registry.effective_level_by_names linked registered
  refine ⟨level, Registry.positions_nodup linked name, ?_, ?_⟩
  · intro low
    have disabled : (state.registry id).isEnabled name record.level = false := by
      rw [Registry.isEnabled, level, Level.passes, decide_eq_false_iff_not]
      omega
    simp [deliver, disabled]
  · intro high
    have enabled : (state.registry id).isEnabled name record.level = true := by
      rw [Registry.isEnabled, level, Level.passes, decide_eq_true_eq]
      exact high
    have handed : state.deliver occasion id name record =
        ((state.registry id).receivers name).foldl (handle occasion record) state := by
      rw [Registry.receivers_eq_handlers, ← Registry.audience_by_names linked registered]
      simp [deliver, enabled]
    constructor
    · exact handed
    · intro outlet
      rw [handed, contents_handle_all]

/-- `app.db` has no level of its own, and `app` keeps its records from the root. -/
theorem deliveries_stop_at_barrier :
    let plainStream : Handler := ⟨some (.stream 0), none, .notSet⟩
    let state := run .initial [.openStream .reliable, .register 0 "app.db", .register 0 "app",
      .setLevel 0 "app" .info, .setPropagate 0 "app" false,
      .setHandlers 0 "app.db" [plainStream], .setHandlers 0 "app" [plainStream, plainStream],
      .setHandlers 0 "" [plainStream]]
    let record : Record := ⟨.info, "app.db", "ready", "pool.rs:4", ⟨0, 0⟩, []⟩
    state.Reachable ∧ (state.registry 0).isRegistered "app.db" = true ∧
      (state.registry 0).chainLevel "app.db" = .info ∧
      (state.registry 0).positions "app.db" = [("app.db", 0), ("app", 0), ("app", 1)] ∧
      (state.deliver .call 0 "app.db" record).contents (.stream 0) =
        state.contents (.stream 0) ++ state.accepted (.stream 0)
          (((state.registry 0).receivers "app.db").flatMap (state.sent record (.stream 0))) := by
  intro plainStream state record
  have reachable : state.Reachable := ⟨.initial, _, .inl rfl, rfl⟩
  have told := deliveries_are_told_by_names state reachable 0 "app.db" (by decide) .call record
  exact ⟨reachable, by decide, by decide, by decide,
    (told.2.2.2 (by decide)).2 (.stream 0)⟩

end State

end FunctionKit.Logging
