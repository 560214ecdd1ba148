import FunctionKit.Proofs.Audience

/-!
# Registering is transparent

A new entry has no level, no handler and propagates. Along a chain that now leads through it
everything is found as before, so no record takes another way to another handler.
-/

namespace FunctionKit.Logging

set_option autoImplicit false

namespace Registry

/-- The handlers that a record reaches when it is logged through a name. -/
def reached (registry : Registry) (name : String) (record : Record) : List Handler :=
  if registry.isEnabled name record.level then registry.audience name else []

theorem rehang_changes_parent (name : String) (entry : Entry) :
    ∃ parent, entry.rehang name = { entry with parent } := by
  unfold Entry.rehang
  split_ifs
  · exact ⟨some name, rfl⟩
  · exact ⟨entry.parent, rfl⟩

section New

variable {registry : Registry} {name : String}

/-- Of an entry that was there before only the parent can be another one. -/
theorem entry_kept (linked : registry.Linked) (new : registry.isRegistered name = false)
    {other : String} {entry : Entry} (found : registry.get? other = some entry) :
    ∃ parent, (registry.register name).get? other = some { entry with parent } := by
  have apart : other ≠ name := by
    rintro rfl
    simp [isRegistered, found] at new
  rw [get?_register other linked.ordered new, if_neg apart, found, Option.map_some]
  by_cases below : isBelow other name = true
  · obtain ⟨parent, changed⟩ := rehang_changes_parent name entry
    rw [if_pos below, changed]
    exact ⟨parent, rfl⟩
  · rw [if_neg below]
    exact ⟨entry.parent, rfl⟩

theorem field_kept {α : Type} (field : Entry → α)
    (ignores : ∀ entry parent, field { entry with parent } = field entry)
    (linked : registry.Linked) (new : registry.isRegistered name = false)
    {other : String} (apart : other ≠ name) :
    ((registry.register name).get? other).map field = (registry.get? other).map field := by
  cases found : registry.get? other with
  | some entry =>
      obtain ⟨parent, kept⟩ := entry_kept linked new found
      rw [kept, Option.map_some, Option.map_some, ignores]
  | none => simp [get?_register other linked.ordered new, apart, found]

theorem get?_new (linked : registry.Linked) (new : registry.isRegistered name = false) :
    (registry.register name).get? name =
      some (Entry.fresh name (some (registry.nearestAbove name))) := by
  rw [get?_register name linked.ordered new, if_pos rfl]

theorem register_registers (linked : registry.Linked) (name : String) :
    (registry.register name).isRegistered name = true := by
  cases known : registry.isRegistered name with
  | true =>
      rw [register_registered registry name known]
      exact known
  | false =>
      rw [isRegistered, get?_new linked known]
      rfl

theorem not_listed_of_new (new : registry.isRegistered name = false) :
    name ∉ registry.names := by
  intro member
  have known := (mem_names_iff (not_root_of_new new)).mp member
  exact Bool.false_ne_true (new.symm.trans known)

theorem names_register_perm (linked : registry.Linked)
    (new : registry.isRegistered name = false) :
    (registry.register name).names.Perm (name :: registry.names) := by
  have unlisted : name ∉ Dict.keys (adopt name registry.named) := by
    rw [keys_adopt name linked.ordered]
    exact not_listed_of_new new
  have joined := Dict.keys_insert_perm (Entry.fresh name (some (registry.nearestAbove name)))
    (adopt_ordered name linked.ordered) unlisted
  rw [keys_adopt name linked.ordered] at joined
  rw [register_new new]
  exact joined

/-! ## Chains through the new name -/

theorem uppers_without (linked : registry.Linked) (new : registry.isRegistered name = false)
    (other : String) :
    ((registry.register name).uppers other).filter (· ≠ name) = registry.uppers other := by
  have unlisted := not_listed_of_new new
  apply eq_of_same_members
  · exact (uppers_shorten (register_linked linked name).ordered other).filter _
  · exact uppers_shorten linked.ordered other
  · intro upper
    rw [List.mem_filter, mem_uppers, mem_uppers, mem_names_register upper linked.ordered new,
      decide_eq_true_eq]
    constructor
    · rintro ⟨⟨same | known, above⟩, apart⟩
      · exact absurd same apart
      · exact ⟨known, above⟩
    · rintro ⟨known, above⟩
      exact ⟨⟨Or.inr known, above⟩, fun same => unlisted (same ▸ known)⟩

/-- The chain of another name is the old one, perhaps with the new name put in. -/
theorem chain_without (linked : registry.Linked) (new : registry.isRegistered name = false)
    {other : String} (apart : other ≠ name) :
    ((registry.register name).chain other).filter (· ≠ name) = registry.chain other := by
  have rootApart : rootName ≠ name := (not_root_of_new new).symm
  unfold chain
  by_cases atRoot : other = rootName
  · rw [if_pos atRoot, if_pos atRoot]
    simp [rootApart]
  · rw [if_neg atRoot, if_neg atRoot, List.filter_append, List.filter_cons_of_pos (by simpa),
      uppers_without linked new]
    simp [rootApart]

/-- The new name comes before the chain of the nearest name above it. -/
theorem chain_of_new (linked : registry.Linked) (new : registry.isRegistered name = false)
    {upper : String} (nearest : NearestAbove registry.names name upper) :
    ((registry.register name).chain name).filter (· ≠ name) = registry.chain upper := by
  have named := not_root_of_new new
  have extended := fun other => mem_names_register other linked.ordered new
  have still := nearest.keep_outside extended (IsAbove.irrefl name)
  have apart : upper ≠ name := by
    rintro rfl
    exact lt_irrefl _ (nearest.shorter named)
  rw [chain_of_nearest (register_linked linked name) named still,
    List.filter_cons_of_neg (by simp), chain_without linked new apart]

/-! ## What is found along them -/

theorem flat_map_without {β : Type} {late early : String → List β} (silent : late name = [])
    (agrees : ∀ other, other ≠ name → late other = early other) (names : List String) :
    names.flatMap late = (names.filter (· ≠ name)).flatMap early := by
  induction names with
  | nil => rfl
  | cons head rest ih =>
      by_cases same : head = name
      · rw [List.filter_cons_of_neg (by simpa using same), List.flatMap_cons, same, silent, ih]
        rfl
      · rw [List.filter_cons_of_pos (by simpa using same), List.flatMap_cons, List.flatMap_cons,
          agrees head same, ih]

theorem find_level_without {late early : String → Level} (unset : late name = .notSet)
    (agrees : ∀ other, other ≠ name → late other = early other) (names : List String) :
    (names.map late).find? (fun level => level ≠ .notSet) =
      ((names.filter (· ≠ name)).map early).find? fun level => level ≠ .notSet := by
  induction names with
  | nil => rfl
  | cons head rest ih =>
      by_cases same : head = name
      · rw [List.filter_cons_of_neg (by simpa using same), List.map_cons, same, unset,
          List.find?_cons_of_neg (by simp), ih]
      · rw [List.filter_cons_of_pos (by simpa using same), List.map_cons, List.map_cons,
          agrees head same, List.find?_cons, List.find?_cons, ih]

theorem up_to_barrier_without {late early : Registry} (passes : late.propagates name = true)
    (agrees : ∀ other, other ≠ name → late.propagates other = early.propagates other)
    (names : List String) :
    (late.upToBarrier names).filter (· ≠ name) =
      early.upToBarrier (names.filter (· ≠ name)) := by
  induction names with
  | nil => rfl
  | cons head rest ih =>
      rw [up_to_barrier_cons]
      by_cases same : head = name
      · rw [List.filter_cons_of_neg (by simpa using same), same, passes, if_pos rfl,
          List.filter_cons_of_neg (by simp), ih]
      · rw [List.filter_cons_of_pos (by simpa using same),
          List.filter_cons_of_pos (by simpa using same), up_to_barrier_cons, agrees head same]
        cases early.propagates head with
        | true => rw [if_pos rfl, if_pos rfl, ih]
        | false => rfl

/-- Two chains that differ by the new name alone lead to the same level and the same handlers. -/
theorem found_along_chain (linked : registry.Linked) (new : registry.isRegistered name = false)
    {entry source : String}
    (skips : ((registry.register name).chain entry).filter (· ≠ name) = registry.chain source) :
    (registry.register name).chainLevel entry = registry.chainLevel source ∧
      (registry.register name).positions entry = registry.positions source ∧
      (registry.register name).receivers entry = registry.receivers source := by
  -- the new entry has nothing to add and stops nothing, and the others answer as before
  have fresh := get?_new linked new
  have noHandlers : (registry.register name).handlersOf name = [] := by
    rw [handlersOf, fresh]
    rfl
  have noLevel : (registry.register name).levelOf name = .notSet := by
    rw [levelOf, fresh]
    rfl
  have passes : (registry.register name).propagates name = true := by
    rw [propagates, fresh]
    rfl
  have sameHandlers : ∀ other, other ≠ name →
      (registry.register name).handlersOf other = registry.handlersOf other := by
    intro other apart
    rw [handlersOf, field_kept Entry.handlers (fun _ _ => rfl) linked new apart]
    rfl
  have sameLevel : ∀ other, other ≠ name →
      (registry.register name).levelOf other = registry.levelOf other := by
    intro other apart
    rw [levelOf, field_kept Entry.level (fun _ _ => rfl) linked new apart]
    rfl
  have samePasses : ∀ other, other ≠ name →
      (registry.register name).propagates other = registry.propagates other := by
    intro other apart
    rw [propagates, field_kept Entry.propagate (fun _ _ => rfl) linked new apart]
    rfl
  have barrier := up_to_barrier_without passes samePasses
    ((registry.register name).chain entry)
  rw [skips] at barrier
  refine ⟨?_, ?_, ?_⟩
  · rw [chainLevel, find_level_without noLevel sameLevel, skips]
    rfl
  · have noPlaces : (registry.register name).places name = [] := by
      rw [places, noHandlers]
      rfl
    have samePlaces : ∀ other, other ≠ name →
        (registry.register name).places other = registry.places other := by
      intro other apart
      rw [places, sameHandlers other apart]
      rfl
    rw [positions, flat_map_without noPlaces samePlaces, barrier]
    rfl
  · rw [receivers_eq_handlers, receivers_eq_handlers, flat_map_without noHandlers sameHandlers,
      barrier]

theorem reached_by_names (linked : registry.Linked) {other : String}
    (registered : registry.isRegistered other = true) (record : Record) :
    registry.reached other record =
      if record.level.passes (registry.chainLevel other) then registry.receivers other else [] := by
  rw [reached, isEnabled, effective_level_by_names linked registered,
    audience_by_names linked registered, receivers_eq_handlers]

/-- What an entry delivers is what another one delivered in an earlier registry. -/
structure DeliversAs (early : Registry) (source : String) (late : Registry) (entry : String) :
    Prop where
  level : late.effectiveLevel entry = early.effectiveLevel source
  positions : late.positions entry = early.positions source
  reached : ∀ record, late.reached entry record = early.reached source record

theorem delivers_as_of_chain (linked : registry.Linked)
    (new : registry.isRegistered name = false) {entry source : String}
    (sourceRegistered : registry.isRegistered source = true)
    (entryRegistered : (registry.register name).isRegistered entry = true)
    (skips : ((registry.register name).chain entry).filter (· ≠ name) = registry.chain source) :
    DeliversAs registry source (registry.register name) entry := by
  have linkedAfter := register_linked linked name
  obtain ⟨level, positions, receivers⟩ := found_along_chain linked new skips
  refine ⟨?_, positions, ?_⟩
  · rw [effective_level_by_names linkedAfter entryRegistered,
      effective_level_by_names linked sourceRegistered, level]
  · intro record
    rw [reached_by_names linkedAfter entryRegistered, reached_by_names linked sourceRegistered,
      level, receivers]

theorem delivers_as_before (linked : registry.Linked)
    (new : registry.isRegistered name = false) {other : String}
    (known : registry.isRegistered other = true) :
    DeliversAs registry other (registry.register name) other := by
  have apart : other ≠ name := by
    rintro rfl
    exact Bool.false_ne_true (new.symm.trans known)
  obtain ⟨entry, found⟩ := Option.isSome_iff_exists.mp known
  obtain ⟨parent, kept⟩ := entry_kept linked new found
  have still : (registry.register name).isRegistered other = true := by
    rw [isRegistered, kept]
    rfl
  exact delivers_as_of_chain linked new known still (chain_without linked new apart)

theorem delivers_as_nearest (linked : registry.Linked)
    (new : registry.isRegistered name = false) {upper : String}
    (nearest : NearestAbove registry.names name upper) :
    DeliversAs registry upper (registry.register name) name := by
  have known := nearest_is_registered linked nearest
  have added : (registry.register name).isRegistered name = true := by
    rw [isRegistered, get?_new linked new]
    rfl
  exact delivers_as_of_chain linked new known added (chain_of_new linked new nearest)

theorem passes_through_new (linked : registry.Linked)
    (new : registry.isRegistered name = false) {other : String} (member : other ∈ registry.names)
    (above : IsAbove name other) :
    name ∈ ((registry.register name).lineage other).map Prod.fst := by
  have linkedAfter := register_linked linked name
  have named := linked.not_root member
  have listed : other ∈ (registry.register name).names :=
    (mem_names_register other linked.ordered new).mpr (Or.inr member)
  have between : name ∈ (registry.register name).uppers other :=
    (mem_uppers _ other name).mpr
      ⟨(mem_names_register name linked.ordered new).mpr (Or.inl rfl), above⟩
  rw [lineage_names linkedAfter ((mem_names_iff named).mp listed), chain, if_neg named]
  exact List.mem_append_left _ (List.mem_cons_of_mem _ between)

end New

end Registry

namespace State

theorem registry_register (state : State) (id : Nat) (name : String) :
    (state.register id name).registry id = (state.registry id).register name := by
  rw [register, registry_setRegistry, if_pos rfl]

theorem deliver_eq_handle_reached (state : State) (occasion : Occasion) (id : Nat)
    (name : String) (record : Record) :
    state.deliver occasion id name record =
      ((state.registry id).reached name record).foldl (handle occasion record) state := by
  unfold deliver Registry.reached
  dsimp only
  split_ifs
  · rfl
  · rfl

/-- A new name joins the registered ones and changes nothing of an entry but the parent. Through
every old name a record reaches the handlers it reached before, and through the new name those of
the nearest registered name above it. -/
theorem new_names_change_no_delivery (state : State) (reachable : state.Reachable) (id : Nat)
    (name : String) (new : (state.registry id).isRegistered name = false) :
    let before := state.registry id
    let registered := state.register id name
    let after := registered.registry id
    (∀ other entry, before.get? other = some entry →
        ∃ parent, after.get? other = some { entry with parent }) ∧
      after.names.Perm (name :: before.names) ∧ after.names.Pairwise (· < ·) ∧
      (∀ other, before.isRegistered other = true →
        Registry.DeliversAs before other after other ∧
          ∀ occasion record, registered.deliver occasion id other record =
            (before.reached other record).foldl (handle occasion record) registered) ∧
      (∀ other ∈ before.names, IsAbove name other →
        name ∈ (after.lineage other).map Prod.fst) ∧
      ∃ upper, NearestAbove before.names name upper ∧ before.isRegistered upper = true ∧
        Registry.DeliversAs before upper after name ∧
          ∀ occasion record, registered.deliver occasion id name record =
            (before.reached upper record).foldl (handle occasion record) registered := by
  intro before registered after
  have linked : before.Linked := reachable_linked reachable id
  have grown : after = before.register name := state.registry_register id name
  have linkedAfter : (before.register name).Linked := Registry.register_linked linked name
  have handed : ∀ {source entry : String}, Registry.DeliversAs before source after entry →
      ∀ occasion record, registered.deliver occasion id entry record =
        (before.reached source record).foldl (handle occasion record) registered := by
    intro source entry same occasion record
    rw [deliver_eq_handle_reached, same.reached]
  refine ⟨?_, ?_, ?_, ?_, ?_, ?_⟩
  · intro other entry found
    rw [grown]
    exact Registry.entry_kept linked new found
  · rw [grown]
    exact Registry.names_register_perm linked new
  · rw [grown]
    exact (Dict.ordered_iff_keys_ascend _).mp linkedAfter.ordered
  · intro other known
    have same : Registry.DeliversAs before other after other := by
      rw [grown]
      exact Registry.delivers_as_before linked new known
    exact ⟨same, handed same⟩
  · intro other member above
    rw [grown]
    exact Registry.passes_through_new linked new member above
  · have nearest := Registry.nearest_above_spec before name
    have same : Registry.DeliversAs before (before.nearestAbove name) after name := by
      rw [grown]
      exact Registry.delivers_as_nearest linked new nearest
    exact ⟨before.nearestAbove name, nearest, Registry.nearest_is_registered linked nearest, same,
      handed same⟩

/-- `app.db` is put between `app` and `app.db.pool`, whose records still reach both handlers. -/
theorem pool_is_heard_through_new_name :
    let ownStream : Handler := ⟨some (.stream 0), none, .notSet⟩
    let appStream : Handler := ⟨some (.stream 1), none, .warning⟩
    let state := run .initial [.openStream .reliable, .openStream .reliable,
      .register 0 "app.db.pool", .register 0 "app", .setLevel 0 "app" .info,
      .setPropagate 0 "app" false, .setHandlers 0 "app" [appStream],
      .addHandler 0 "app.db.pool" ownStream]
    let after := (state.register 0 "app.db").registry 0
    let record : Record := ⟨.info, "app.db.pool", "ready", "pool.rs:4", ⟨0, 0⟩, []⟩
    state.Reachable ∧ (state.registry 0).isRegistered "app.db" = false ∧
      (state.registry 0).isRegistered "app.db.pool" = true ∧
      (state.registry 0).reached "app.db.pool" record = [ownStream, appStream] ∧
      after.reached "app.db.pool" record = (state.registry 0).reached "app.db.pool" record ∧
      ∃ upper, NearestAbove (state.registry 0).names "app.db" upper ∧
        Registry.DeliversAs (state.registry 0) upper after "app.db" := by
  intro ownStream appStream state after record
  have reachable : state.Reachable := ⟨.initial, _, .inl rfl, rfl⟩
  have new : (state.registry 0).isRegistered "app.db" = false := by decide
  have pool : (state.registry 0).isRegistered "app.db.pool" = true := by decide
  obtain ⟨_, _, _, others, _, upper, nearest, _, same, _⟩ :=
    new_names_change_no_delivery state reachable 0 "app.db" new
  have heard := (others "app.db.pool" pool).1.reached record
  exact ⟨reachable, new, pool, by decide, heard, upper, nearest, same⟩

end State

end FunctionKit.Logging
