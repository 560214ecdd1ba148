import FunctionKit.Proofs.Copying
import FunctionKit.Proofs.Transparency

/-!
# Routes of records

The route of an entry is what it does with a record that gets there. Few commands set routes, and
whom a record reaches is told by the routes on its way up: what lies beyond an entry that ends the
way plays no part, and entries that let records through might as well not be there.
-/

namespace FunctionKit.Logging

set_option autoImplicit false

@[ext]
structure Route where
  handlers : List Handler
  passesOn : Bool
deriving DecidableEq

/-- Nobody takes the record and it goes on. -/
def Route.through : Route :=
  ⟨[], true⟩

/-- One handler takes the record and it ends here. -/
def Route.endsAt (handler : Handler) : Route :=
  ⟨[handler], false⟩

def Entry.route (entry : Entry) : Route :=
  ⟨entry.handlers, entry.propagate⟩

def KeepsRoute (name : String) (change : Entry → Entry) : Prop :=
  KeepsParent name change ∧ ∀ entry, (change entry).route = entry.route

/-- Handlers or flags are set outright. -/
def Command.setsRoutes : Command → Bool
  | .setPropagate _ _ _ | .setHandlers _ _ _ | .addHandler _ _ _ | .copyConfiguration _ _ _ => true
  | _ => false

def Command.buildsService : Command → Bool
  | .build blueprint _ => !blueprint.logger.isChild
  | _ => false

/-- A service logger takes over the route of its entry, a child logger leaves all routes alone. -/
def Command.reroutes (command : Command) : Bool :=
  command.setsRoutes || command.buildsService

theorem RebindsKeys.keeps_route {service name : String} {change : Entry → Entry}
    (rebinds : RebindsKeys service name change) : KeepsRoute name change := by
  obtain ⟨_, _, rfl⟩ := rebinds
  exact ⟨fun _ => rfl, fun _ => rfl⟩

theorem Command.Makes.keeps_route {command : Command} {name : String} {change : Entry → Entry}
    (makes : command.Makes name change) (quiet : command.reroutes = false) :
    KeepsRoute name change := by
  cases command with
  | setLevel | setServiceLevel =>
      obtain ⟨_, rfl⟩ := makes
      exact ⟨fun _ => rfl, fun _ => rfl⟩
  | appendKeys | removeKeys | clearKeys | structureKeys | injectInvocation | evaluate =>
      exact RebindsKeys.keeps_route makes
  | build blueprint draw =>
      rcases makes with rebinds | ⟨isService, _, _⟩
      · exact rebinds.keeps_route
      · simp [reroutes, buildsService, Logger.isChild, Blueprint.logger, isService] at quiet
  | setPropagate | setHandlers | addHandler | copyConfiguration => cases quiet
  | register | deliver | dispatch | openStream | addFormatter | report | log | logException
  | logIncoming => cases makes

namespace Registry

/-- Names without an entry have the route that a new entry has. -/
def route (registry : Registry) (name : String) : Route :=
  ((registry.get? name).map Entry.route).getD .through

theorem route_of_entry {registry : Registry} {name : String} {entry : Entry}
    (found : registry.get? name = some entry) : registry.route name = entry.route := by
  rw [route, found]
  rfl

theorem route_register {registry : Registry} (linked : registry.Linked) (name other : String) :
    (registry.register name).route other = registry.route other := by
  cases known : registry.isRegistered name with
  | true => rw [register_registered registry name known]
  | false =>
      by_cases same : other = name
      · subst same
        have nobody : registry.get? other = none := by
          simpa [isRegistered] using known
        rw [route_of_entry (get?_new linked known), route, nobody]
        rfl
      · rw [route, field_kept Entry.route (fun _ _ => rfl) linked known same]
        rfl

theorem route_modify (registry : Registry) (name other : String) {change : Entry → Entry}
    (keeps : ∀ entry, (change entry).route = entry.route) :
    (registry.modify name change).route other = registry.route other := by
  have ignored : Entry.route ∘ change = Entry.route := funext keeps
  unfold route
  rw [get?_modify]
  by_cases same : name = other
  · rw [if_pos same, Option.map_map, ignored]
  · rw [if_neg same]

theorem Grows.route {start registry : Registry} (grows : start.Grows KeepsRoute registry)
    (linked : start.Linked) (name : String) : registry.route name = start.route name := by
  induction grows with
  | same => rfl
  | registered other before ih =>
      have linkedBefore := (before.mono fun _ _ keeps => keeps.1).linked linked
      rw [route_register linkedBefore, ih]
  | modified other change keeps _ ih => rw [route_modify _ _ _ keeps.2, ih]

theorem Grows.is_registered {start registry : Registry} (grows : start.Grows KeepsParent registry)
    (linked : start.Linked) {name : String} (registered : start.isRegistered name = true) :
    registry.isRegistered name = true := by
  induction grows with
  | same => exact registered
  | @registered before other grown ih =>
      cases known : before.isRegistered other with
      | true =>
          rw [register_registered before other known]
          exact ih
      | false =>
          obtain ⟨entry, found⟩ := Option.isSome_iff_exists.mp ih
          obtain ⟨parent, kept⟩ := entry_kept (grown.linked linked) known found
          rw [isRegistered, kept]
          rfl
  | @modified before other change _ _ ih =>
      rw [isRegistered, get?_modify]
      by_cases same : other = name
      · rw [if_pos same, Option.isSome_map]
        exact ih
      · rw [if_neg same]
        exact ih

/-! ## Whom a record reaches -/

theorem handlers_of_route (registry : Registry) (name : String) :
    registry.handlersOf name = (registry.route name).handlers := by
  unfold handlersOf route
  cases registry.get? name <;> rfl

theorem propagates_of_route {registry : Registry} {name : String}
    (registered : registry.isRegistered name = true) :
    registry.propagates name = (registry.route name).passesOn := by
  obtain ⟨entry, found⟩ := Option.isSome_iff_exists.mp registered
  rw [route_of_entry found, propagates, found]
  rfl

theorem audience_of_end {registry : Registry} (linked : registry.Linked) {name : String}
    (registered : registry.isRegistered name = true)
    (ends : (registry.route name).passesOn = false) :
    registry.audience name = (registry.route name).handlers := by
  have starts : ∃ above, registry.chain name = name :: above := by
    unfold chain
    by_cases atRoot : name = rootName
    · exact ⟨[], by rw [if_pos atRoot, atRoot]⟩
    · exact ⟨_, by rw [if_neg atRoot, List.cons_append]⟩
  obtain ⟨above, chain⟩ := starts
  rw [audience_by_names linked registered, chain, up_to_barrier_cons,
    propagates_of_route registered, ends, if_neg Bool.false_ne_true, List.flatMap_cons,
    List.flatMap_nil, List.append_nil, handlers_of_route]

theorem audience_of_through {registry : Registry} (linked : registry.Linked) {name upper : String}
    (named : name ≠ rootName) (registered : registry.isRegistered name = true)
    (nearest : NearestAbove registry.names name upper)
    (passesAll : registry.route name = .through) : registry.audience name = registry.audience upper := by
  have passes : registry.propagates name = true := by
    rw [propagates_of_route registered, passesAll]
    rfl
  have upperRegistered := nearest_is_registered linked nearest
  rw [audience_by_names linked registered, audience_by_names linked upperRegistered,
    chain_of_nearest linked named nearest, up_to_barrier_cons, passes, if_pos rfl,
    List.flatMap_cons, handlers_of_route, passesAll]
  rfl

/-- Where all entries below an upper one let records through, everything goes to its audience. -/
theorem audience_of_way_through {registry : Registry} (linked : registry.Linked) (name : String)
    (registered : registry.isRegistered name = true) :
    ∀ upper ∈ registry.chain name,
      (∀ between ∈ registry.chain name, upper.length < between.length →
        registry.route between = .through) →
      registry.audience name = registry.audience upper := by
  -- Along the parent links: either the way starts at the upper entry, or its first entry lets the
  -- record through to the parent.
  apply entry_induction linked ?_ ?_ name registered
  · intro _ upper member _
    rw [chain, if_pos rfl, List.mem_singleton] at member
    rw [member]
  · intro name next entry named found _ nearest _ onwards upper member through
    have shortens := chain_shortens linked name
    rw [chain_of_nearest linked named nearest] at member through shortens
    rcases List.mem_cons.mp member with same | further
    · rw [same]
    · have shorter := (List.pairwise_cons.mp shortens).1 upper further
      have isRegistered : registry.isRegistered name = true := by
        rw [Registry.isRegistered, found]
        rfl
      have passesAll := through name List.mem_cons_self shorter
      rw [audience_of_through linked named isRegistered nearest passesAll]
      exact onwards upper further fun between later longer =>
        through between (List.mem_cons_of_mem _ later) longer

theorem mem_chain_of_above {registry : Registry} {upper lower : String}
    (registered : registry.isRegistered upper = true) (above : IsAbove upper lower) :
    upper ∈ registry.chain lower := by
  have named : lower ≠ rootName := by
    rintro rfl
    exact root_is_above_nothing_empty upper above
  rw [chain, if_neg named, List.mem_append, List.mem_singleton]
  by_cases atRoot : upper = rootName
  · exact Or.inr atRoot
  · have listed := (mem_names_iff atRoot).mpr registered
    exact Or.inl (List.mem_cons_of_mem _ ((registry.mem_uppers lower upper).mpr ⟨listed, above⟩))

theorem between_of_longer {registry : Registry} {upper between lower : String}
    (above : IsAbove upper lower) (member : between ∈ registry.chain lower)
    (longer : upper.length < between.length) :
    between = lower ∨ IsAbove upper between ∧ IsAbove between lower := by
  have named : lower ≠ rootName := by
    rintro rfl
    exact root_is_above_nothing_empty upper above
  rw [chain, if_neg named, List.cons_append, List.mem_cons, List.mem_append,
    List.mem_singleton] at member
  rcases member with same | further | last
  · exact Or.inl same
  · have nearer := ((registry.mem_uppers lower between).mp further).2
    exact Or.inr ⟨above.of_shorter nearer longer, nearer⟩
  · rw [last] at longer
    simp [rootName] at longer

theorem route_of_silent {registry : Registry} {name : String}
    (registered : registry.isRegistered name = true) (nobody : registry.handlersOf name = [])
    (passes : registry.propagates name = true) : registry.route name = .through := by
  rw [handlers_of_route] at nobody
  rw [propagates_of_route registered] at passes
  exact Route.ext nobody passes

/-- An entry below another one has its audience if it and all entries between let records
through. -/
theorem audience_of_through_between {registry : Registry} (linked : registry.Linked)
    {upper lower : String} (upperRegistered : registry.isRegistered upper = true)
    (lowerRegistered : registry.isRegistered lower = true) (above : IsAbove upper lower)
    (through : ∀ between, registry.isRegistered between = true →
      between = lower ∨ IsAbove upper between ∧ IsAbove between lower →
      registry.route between = .through) :
    registry.audience lower = registry.audience upper := by
  apply audience_of_way_through linked lower lowerRegistered upper
  · exact mem_chain_of_above upperRegistered above
  · intro between member longer
    exact through between (chain_is_registered linked lowerRegistered between member)
      (between_of_longer above member longer)

end Registry

namespace State

/-- Commands that set no route leave the route of every name as it was. -/
theorem run_keeps_routes {commands : List Command}
    (quiet : ∀ command ∈ commands, command.reroutes = false) {state : State} {id : Nat}
    (linked : (state.registry id).Linked) (name : String) :
    ((run state commands).registry id).route name = (state.registry id).route name := by
  have grows : Grows KeepsRoute state (run state commands) :=
    run_grows commands (fun command member _ _ makes => makes.keeps_route (quiet command member))
      state
  exact (grows id).route linked name

/-- Every record that is enabled on an entry is handed to one handler once and to no other. -/
def HandsOnlyTo (state : State) (id : Nat) (name : String) (handler : Handler) : Prop :=
  ∀ occasion record, (state.registry id).isEnabled name record.level = true →
    (state.registry id).reached name record = [handler] ∧
      state.deliver occasion id name record = handle occasion record state handler

theorem hands_only_to_of_audience {state : State} {id : Nat} {name : String} {handler : Handler}
    (audience : (state.registry id).audience name = [handler]) :
    state.HandsOnlyTo id name handler := by
  intro occasion record enabled
  have reached : (state.registry id).reached name record = [handler] := by
    rw [Registry.reached, enabled, if_pos rfl, audience]
  rw [deliver_eq_handle_reached, reached]
  exact ⟨rfl, rfl⟩

end State

end FunctionKit.Logging
