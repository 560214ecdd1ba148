import FunctionKit.Proofs.BoundKeys
import FunctionKit.Proofs.LogLines
import FunctionKit.Proofs.Services

/-!
# Keys of copied handlers

A handler names the service whose keys its lines show. So an entry that was given the handler of a
service shows what is bound on the service, now and after whatever is bound later, and nothing that
other services bind.
-/

namespace FunctionKit.Logging

set_option autoImplicit false

theorem Registry.audience_starts {registry : Registry} {name : String}
    (registered : registry.isRegistered name = true) :
    ∃ further, registry.audience name = registry.handlersOf name ++ further := by
  obtain ⟨entry, found⟩ := Option.isSome_iff_exists.mp registered
  simp [audience, lineage, climb, handlersUpwards, handlersOf, found]

namespace State

theorem service_of_handler {state : State} {logger : Logger} {handler : Handler}
    (linked : (state.registry logger.registry).Linked)
    (held : logger.handler? state = some handler) :
    state.HasService logger.registry logger.service := by
  refine ⟨linked, ?_⟩
  obtain ⟨entry, found, _⟩ := Option.bind_eq_some_iff.mp held
  rw [Registry.isRegistered, found]
  rfl

/-- As long as a picked entry has the handler that was copied to it, which the service of the source
had from a build, this handler takes the records of the entry first, and what it writes for a record
is its line with the keys bound on the service at that moment, the record's own keys and the
standard ones over them. What is bound then is what was bound before the copy with all edits since
that were made through loggers of the service, and with no others. By `evaluate_eq_run` this holds
in the middle of an evaluation too. -/
theorem copied_handlers_show_the_keys_of_the_source (state : State) (reachable : state.Reachable)
    (id : Nat) (source : Logger) (options : CopyOptions) (built : Blueprint)
    (sameRegistry : built.registry = source.registry)
    (sameService : built.settings.service = source.service)
    (held : source.handler? state = some built.handler) (target : String)
    (listed : target ∈ (state.registry id).names) (picked : options.Picks source target)
    (commands : List Command)
    (kept : ((run (state.copyConfiguration id source options) commands).registry id).handlersOf
        target =
      ((state.copyConfiguration id source options).registry id).handlersOf target) :
    let after := run (state.copyConfiguration id source options) commands
    let registry := after.registry id
    registry.handlersOf target = [built.handler] ∧
      (∀ record, registry.isEnabled target record.level = true →
        ∃ further, registry.reached target record = built.handler :: further) ∧
      (∀ moment, OnlyWrites after moment → ∀ occasion record outlet,
        let line := record.structuredLine (source.boundKeys after)
        (handle occasion record moment built.handler).contents outlet =
          moment.contents outlet ++
            if outlet = built.outlet then moment.accepted outlet (Text.utf8Bytes (line ++ "\n"))
            else []) ∧
      (∀ record : Record, (Dict.keys record.extra).Nodup →
        ∃ shown, record.structuredLine (source.boundKeys after) =
            (Json.object shown).compactText ∧
          ∀ key, Dict.get? key shown = record.shownAt (source.boundKeys after) key) ∧
      source.boundKeys after =
        KeyEdit.applyAll
          (keyEditsOfRun source.registry source.service state.coldStart commands)
          (source.boundKeys state) := by
  intro after registry
  have linked := reachable_linked reachable id
  have registered := (Registry.mem_names_iff (linked.not_root listed)).mp listed
  have chosen : target ∈ (state.registry id).names.filter (options.selects source) :=
    List.mem_filter.mpr ⟨listed, (options.selects_iff source target).mpr picked⟩
  have handlers : registry.handlersOf target = [built.handler] := by
    have ends := route_of_configured (copy_configuration_reconfigures id options held) chosen
      registered
    rw [kept, Registry.handlers_of_route, ends]
    rfl
  have stays : registry.isRegistered target = true :=
    (run_keeps_parents (.copyConfiguration id source options :: commands) state id).is_registered
      linked registered
  have formatter : built.logger.formatter = source.formatter := by
    simp only [Logger.formatter, Blueprint.logger, sameRegistry, sameService]
  refine ⟨handlers, ?_, ?_, ?_, ?_⟩
  · intro record enabled
    obtain ⟨further, audience⟩ := Registry.audience_starts stays
    rw [handlers] at audience
    exact ⟨further, by rw [Registry.reached, if_pos enabled, audience]; rfl⟩
  · intro moment writes occasion record outlet
    have bound : moment.boundKeys built.logger.formatter = source.boundKeys after := by
      rw [formatter, bound_keys_of_same writes.registries writes.formatters]
      rfl
    rw [contents_handle_service, bound]
  · intro record distinct
    exact ⟨record.toFields (source.boundKeys after), rfl, Record.get?_to_fields _ record distinct⟩
  · have has := service_of_handler (reachable_linked reachable source.registry) held
    -- The copy is the first command of a run in which it edits nothing.
    have bound := run_bound_keys (.copyConfiguration id source options :: commands) has
    simp only [keyEditsOfRun, Command.keyEdits, Command.servesInvocation, Bool.not_false,
      Bool.and_true, List.nil_append] at bound
    exact bound

/-- After the copy to `app.db` a child of the service and the rebuilt service bind keys, and so does
the other service `orders`. The line of `app.db` still goes to the first stream. -/
theorem a_copied_handler_shows_later_keys_of_its_service :
    let settings : Settings := ⟨"pay", .info, .zero, false⟩
    let built : Blueprint := ⟨0, settings, none, some 0⟩
    let worker : Blueprint := ⟨0, settings, some "worker", none⟩
    let orders : Blueprint := ⟨0, ⟨"orders", .info, .zero, false⟩, none, none⟩
    let state := run .initial [.openStream .reliable, .build built .least,
      .appendKeys built.logger [("tenant", .string "north")], .register 0 "app.db"]
    let options : CopyOptions := ⟨none, none, none⟩
    let commands : List Command := [.build worker .least, .build orders .least,
      .appendKeys worker.logger [("batch", .ofInt 7)],
      .appendKeys orders.logger [("tenant", .string "south"), ("cart", .ofInt 9)],
      .build ⟨0, settings, none, none⟩ .least, .removeKeys built.logger ["tenant"]]
    let after := run (state.copyConfiguration 0 built.logger options) commands
    let record : Record := ⟨.info, "app.db", "open", "db.rs:3", ⟨0, 0⟩, []⟩
    state.Reachable ∧ built.logger.handler? state = some built.handler ∧
      "app.db" ∈ (state.registry 0).names ∧ options.Picks built.logger "app.db" ∧
      built.logger.handler? after ≠ some built.handler ∧
      built.logger.boundKeys after = [("batch", .ofInt 7), ("service", .string "pay")] ∧
      (∃ further, (after.registry 0).reached "app.db" record = built.handler :: further) ∧
      (handle .call record after built.handler).contents (.stream 0) =
        after.contents (.stream 0) ++ after.accepted (.stream 0) (Text.utf8Bytes
          (record.structuredLine [("batch", .ofInt 7), ("service", .string "pay")] ++ "\n")) := by
  intro settings built worker orders state options commands after record
  have reachable : state.Reachable := ⟨.initial, _, .inl rfl, rfl⟩
  have held : built.logger.handler? state = some built.handler := by decide
  have listed : "app.db" ∈ (state.registry 0).names := by decide
  have picked : options.Picks built.logger "app.db" :=
    (options.selects_iff built.logger "app.db").mp (by decide)
  obtain ⟨_, first, lines, _, bound⟩ := copied_handlers_show_the_keys_of_the_source state reachable 0
    built.logger options built rfl rfl held "app.db" listed picked commands (by decide)
  have keys : built.logger.boundKeys after = [("batch", .ofInt 7), ("service", .string "pay")] := by
    rw [bound]
    dsimp +zetaDelta only
    rfl
  have own : Outlet.stream 0 = built.outlet := rfl
  have written := lines after (.refl after) .call record (.stream 0)
  dsimp only at written
  rw [keys, if_pos own] at written
  have rebuilt : built.logger.handler? after ≠ some built.handler := by decide
  have enabled : (after.registry 0).isEnabled "app.db" record.level = true := by decide
  exact ⟨reachable, held, listed, picked, rebuilt, keys, first record enabled, written⟩

end State

end FunctionKit.Logging
