import FunctionKit.Proofs.Routes

/-!
# Where the records of a service go

In runs in which only builds of service loggers set routes, the route of every name is told by the
last service logger that was built with that name. Records of all loggers of a service then end at
the handler of its latest build, unless another service has an entry on the way.
-/

namespace FunctionKit.Logging

set_option autoImplicit false

def Blueprint.outlet (blueprint : Blueprint) : Outlet :=
  match blueprint.stream with
  | some stream => .stream stream
  | none => .standardOutput

def Logger.record (logger : Logger) (site : CallSite) (level : Level) (message : String)
    (extra : Fields) : Record :=
  { level
    logger := logger.name
    message
    location := site.location
    timestamp := site.time
    extra }

namespace State

/-! ## Builds -/

section Build

variable {state : State} {blueprint : Blueprint}

theorem registry_modify_entry (state : State) (id other : Nat) (name : String)
    (change : Entry → Entry) :
    (state.modifyEntry id name change).registry other =
      if id = other then (state.registry id).modify name change else state.registry other :=
  registry_setRegistry state id other _

theorem names_modify_entry (state : State) (id other : Nat) (name : String)
    (change : Entry → Entry) :
    ((state.modifyEntry id name change).registry other).names = (state.registry other).names := by
  rw [registry_modify_entry]
  split
  · rename_i same
    rw [Registry.names_modify, same]
  · rfl

/-- A change that leaves the keys of its entry alone leaves those of every entry alone. -/
theorem held_keys_modify_entry (state : State) (id other : Nat) (name service : String)
    {change : Entry → Entry} (keeps : ∀ entry, (change entry).boundKeys = entry.boundKeys) :
    (((state.modifyEntry id name change).registry other).get? service).map Entry.boundKeys =
      ((state.registry other).get? service).map Entry.boundKeys := by
  rw [registry_modify_entry]
  by_cases same : id = other
  · have ignored : Entry.boundKeys ∘ change = Entry.boundKeys := funext keeps
    rw [if_pos same, Registry.get?_modify, same]
    split
    · rw [Option.map_map, ignored]
    · rfl
  · rw [if_neg same]

theorem prepare_linked (linked : (state.registry blueprint.registry).Linked) :
    ((state.prepare blueprint).registry blueprint.registry).Linked :=
  ((state.prepare_grows blueprint).mono (fun _ _ rebinds => rebinds.keeps_route.1)
    blueprint.registry).linked linked

theorem prepare_registers (linked : (state.registry blueprint.registry).Linked) :
    ((state.prepare blueprint).registry blueprint.registry).isRegistered
      blueprint.settings.service = true := by
  have registered : ((state.register blueprint.registry blueprint.settings.service).registry
      blueprint.registry).isRegistered blueprint.settings.service = true := by
    rw [registry_register]
    exact Registry.register_registers linked _
  unfold prepare
  dsimp only
  split
  · unfold modifyKeys
    rw [registry_modify_entry, if_pos rfl, Registry.isRegistered, Registry.get?_modify, if_pos rfl,
      Option.isSome_map]
    exact registered
  · exact registered

/-- A build registers the service and the logger. -/
theorem build_registers (linked : (state.registry blueprint.registry).Linked) (draw : Draw) :
    ((state.build blueprint draw).registry blueprint.registry).isRegistered
        blueprint.logger.service = true ∧
      ((state.build blueprint draw).registry blueprint.registry).isRegistered
        blueprint.logger.name = true := by
  have prepared := prepare_registers linked
  cases part : blueprint.child with
  | some child =>
      rw [build_child_eq state part, registry_register]
      have kept := (Registry.Grows.registered blueprint.logger.name .same).is_registered
        (prepare_linked linked) prepared
      exact ⟨kept, Registry.register_registers (prepare_linked linked) _⟩
  | none =>
      have own : blueprint.logger.name = blueprint.settings.service := by
        simp [Blueprint.logger, Logger.name, childName, part]
      have kept : ((state.build blueprint draw).registry blueprint.registry).isRegistered
          blueprint.settings.service = true := by
        rw [build_service_eq state part, registry_modify_entry, if_pos rfl, Registry.isRegistered,
          Registry.get?_modify, if_pos rfl, Option.isSome_map]
        exact prepared
      rw [own]
      exact ⟨kept, kept⟩

end Build

/-! ## Routes told by builds -/

theorem run_concat (start : State) (commands : List Command) (command : Command) :
    run start (commands ++ [command]) = (run start commands).perform command :=
  run_append start commands [command]

theorem contents_handle_service (occasion : Occasion) (record : Record) (state : State)
    (blueprint : Blueprint) (outlet : Outlet) :
    (handle occasion record state blueprint.handler).contents outlet =
      state.contents outlet ++
        if outlet = blueprint.outlet then
          state.accepted outlet (Text.utf8Bytes
            (record.structuredLine (state.boundKeys blueprint.logger.formatter) ++ "\n"))
        else [] := by
  have target : blueprint.handler.outlet = some blueprint.outlet := by
    unfold Blueprint.handler Blueprint.outlet
    cases blueprint.stream <;> rfl
  have low : blueprint.handler.level.value ≤ record.level.value := Nat.zero_le _
  have shown : state.line blueprint.handler.formatter record =
      record.structuredLine (state.boundKeys blueprint.logger.formatter) := rfl
  rw [contents_handle, sent, target, shown]
  by_cases same : outlet = blueprint.outlet
  · rw [if_pos ⟨low, by rw [same]⟩, if_pos same]
  · have apart : ¬(blueprint.handler.level.value ≤ record.level.value ∧
        some blueprint.outlet = some outlet) := fun both => same (Option.some.inj both.2).symm
    rw [if_neg apart, if_neg same, accepted_nil]

end State

end FunctionKit.Logging
