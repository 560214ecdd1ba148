import FunctionKit.Proofs.LastEdits
import FunctionKit.Proofs.OpenStreams

/-!
# Edits of keys

Edits of the keys of a service touch nothing else. Records go the same ways to the same handlers as
before, and only the lines of those handlers that show the keys of the service are different.
-/

namespace FunctionKit.Logging

set_option autoImplicit false

open FunctionKit.ConfigRule

/-! ## Registries -/

/-- An entry after edits of its keys. -/
def Entry.edited (edits : List KeyEdit) (entry : Entry) : Entry :=
  { entry with boundKeys := KeyEdit.applyAll edits entry.boundKeys }

namespace Registry

variable {registry : Registry}

theorem modify_modify (registry : Registry) (name : String) (first second : Entry → Entry) :
    (registry.modify name first).modify name second =
      registry.modify name fun entry => second (first entry) := by
  unfold modify
  by_cases atRoot : name = rootName
  · simp only [if_pos atRoot]
  · simp only [if_neg atRoot]
    congr 1
    unfold Dict.modify
    rw [List.map_map]
    apply List.map_congr_left
    intro entry _
    by_cases here : entry.1 = name <;> simp [here]

theorem modify_same (registry : Registry) (name : String) :
    registry.modify name (fun entry => entry) = registry := by
  unfold modify Dict.modify
  split <;> simp

theorem get?_modify_map (registry : Registry) (target name : String) (change : Entry → Entry) :
    (registry.modify target change).get? name =
      (registry.get? name).map fun entry => if name = target then change entry else entry := by
  rw [get?_modify]
  by_cases here : target = name
  · simp only [if_pos here, if_pos here.symm]
  · simp only [if_neg here, if_neg (Ne.symm here), Option.map_id']

def changeAt (target : String) (change : Entry → Entry) (place : String × Entry) :
    String × Entry :=
  (place.1, if place.1 = target then change place.2 else place.2)

/-- Every entry on a way up is changed in its place. -/
theorem climb_modify (change : Entry → Entry) (keeps : ∀ entry, (change entry).parent = entry.parent)
    (target : String) (bound : Nat) (name : String) :
    (registry.modify target change).climb bound name =
      (registry.climb bound name).map (changeAt target change) := by
  induction bound generalizing name with
  | zero => rfl
  | succ bound ih =>
      unfold climb
      rw [get?_modify_map]
      cases registry.get? name with
      | none => rfl
      | some entry =>
          have parent : (if name = target then change entry else entry).parent = entry.parent := by
            split
            · exact keeps entry
            · rfl
          simp only [Option.map_some, List.map_cons, parent, changeAt]
          cases entry.parent with
          | none => rfl
          | some upper => exact congrArg (_ :: ·) (ih upper)

theorem first_level_map {change : String × Entry → String × Entry}
    (keeps : ∀ place, (change place).2.level = place.2.level) (places : List (String × Entry)) :
    firstLevel (places.map change) = firstLevel places := by
  induction places with
  | nil => rfl
  | cons place above ih => rw [List.map_cons, firstLevel, firstLevel, keeps, ih]

theorem handlers_upwards_map {change : String × Entry → String × Entry}
    (keeps : ∀ place, (change place).2.route = place.2.route) (places : List (String × Entry)) :
    handlersUpwards (places.map change) = handlersUpwards places := by
  induction places with
  | nil => rfl
  | cons place above ih =>
      obtain ⟨handlers, propagates⟩ := Route.mk.inj (keeps place)
      rw [List.map_cons, handlersUpwards, handlersUpwards, handlers, propagates, ih]

/-- A registry after edits of the keys of a service. -/
def edited (registry : Registry) (service : String) (edits : List KeyEdit) : Registry :=
  registry.modify service (Entry.edited edits)

theorem edited_nil (registry : Registry) (service : String) :
    registry.edited service [] = registry :=
  registry.modify_same service

theorem edited_edited (registry : Registry) (service : String) (early late : List KeyEdit) :
    (registry.edited service early).edited service late =
      registry.edited service (early ++ late) := by
  have both : (fun entry : Entry => (entry.edited early).edited late) =
      Entry.edited (early ++ late) := by
    funext entry
    simp only [Entry.edited, KeyEdit.apply_all_append]
  rw [edited, edited, modify_modify, both, edited]

theorem get?_edited (registry : Registry) (service name : String) (edits : List KeyEdit) :
    (registry.edited service edits).get? name =
      (registry.get? name).map fun entry =>
        if name = service then entry.edited edits else entry :=
  registry.get?_modify_map service name _

theorem names_edited (registry : Registry) (service : String) (edits : List KeyEdit) :
    (registry.edited service edits).names = registry.names :=
  names_modify registry service _

theorem effective_level_edited (registry : Registry) (service name : String)
    (edits : List KeyEdit) :
    (registry.edited service edits).effectiveLevel name = registry.effectiveLevel name := by
  unfold effectiveLevel lineage edited
  rw [climb_modify (Entry.edited edits) fun _ => rfl]
  apply first_level_map
  intro place
  unfold changeAt
  dsimp only
  split <;> rfl

theorem is_enabled_edited (registry : Registry) (service name : String) (edits : List KeyEdit)
    (level : Level) :
    (registry.edited service edits).isEnabled name level = registry.isEnabled name level := by
  unfold isEnabled
  rw [effective_level_edited]

theorem audience_edited (registry : Registry) (service name : String) (edits : List KeyEdit) :
    (registry.edited service edits).audience name = registry.audience name := by
  unfold audience lineage edited
  rw [climb_modify (Entry.edited edits) fun _ => rfl]
  apply handlers_upwards_map
  intro place
  unfold changeAt
  dsimp only
  split <;> rfl

end Registry

/-! ## States -/

namespace State

/-- Nothing has changed but, by some edits, the keys of the service of a logger, and what was
written and reported. -/
structure OnlyEdits (logger : Logger) (edits : List KeyEdit) (before after : State) : Prop where
  registry : ∀ id, after.registry id =
    if id = logger.registry then (before.registry id).edited logger.service edits
    else before.registry id
  formatters : after.formatters = before.formatters
  streams : after.streams = before.streams

section OnlyEdits

variable {logger : Logger} {edits early late : List KeyEdit} {before middle after : State}

namespace OnlyEdits

theorem trans (left : OnlyEdits logger early before middle)
    (right : OnlyEdits logger late middle after) :
    OnlyEdits logger (early ++ late) before after where
  registry := by
    intro id
    rw [right.registry, left.registry]
    split
    · exact Registry.edited_edited _ _ _ _
    · rfl
  formatters := right.formatters.trans left.formatters
  streams := right.streams.trans left.streams

theorem of_only_writes (writes : OnlyWrites before after) : OnlyEdits logger [] before after where
  registry := by
    intro id
    rw [writes.registry, Registry.edited_nil, ite_self]
  formatters := writes.formatters
  streams := writes.streams

theorem then_writes (only : OnlyEdits logger edits before middle)
    (writes : OnlyWrites middle after) : OnlyEdits logger edits before after := by
  have both := only.trans (of_only_writes writes : OnlyEdits logger [] middle after)
  rw [List.append_nil] at both
  exact both

theorem is_registered (only : OnlyEdits logger edits before after) (id : Nat) (name : String) :
    (after.registry id).isRegistered name = (before.registry id).isRegistered name := by
  unfold Registry.isRegistered
  rw [only.registry]
  split
  · rw [Registry.get?_edited, Option.isSome_map]
  · rfl

theorem is_enabled (only : OnlyEdits logger edits before after) (id : Nat) (name : String)
    (level : Level) :
    (after.registry id).isEnabled name level = (before.registry id).isEnabled name level := by
  rw [only.registry]
  split
  · exact Registry.is_enabled_edited _ _ _ _ _
  · rfl

theorem audience (only : OnlyEdits logger edits before after) (id : Nat) (name : String) :
    (after.registry id).audience name = (before.registry id).audience name := by
  rw [only.registry]
  split
  · exact Registry.audience_edited _ _ _ _
  · rfl

theorem bound_keys (only : OnlyEdits logger edits before after)
    (registered : (before.registry logger.registry).isRegistered logger.service = true) :
    logger.boundKeys after = KeyEdit.applyAll edits (logger.boundKeys before) := by
  obtain ⟨entry, found⟩ := Option.isSome_iff_exists.mp registered
  simp only [Logger.boundKeys, Logger.formatter, State.boundKeys]
  rw [only.registry, if_pos rfl, Registry.get?_edited, found]
  simp [Entry.edited]

theorem names (only : OnlyEdits logger edits before after) (id : Nat) :
    (after.registry id).names = (before.registry id).names := by
  rw [only.registry]
  split
  · exact Registry.names_edited _ _ _
  · rfl

theorem entries (only : OnlyEdits logger edits before after) (id : Nat) (name : String) :
    (after.registry id).get? name =
      ((before.registry id).get? name).map fun entry =>
        if id = logger.registry ∧ name = logger.service then
          { entry with boundKeys := logger.boundKeys after }
        else entry := by
  by_cases own : id = logger.registry ∧ name = logger.service
  · obtain ⟨rfl, rfl⟩ := own
    cases found : (before.registry logger.registry).get? logger.service with
    | none =>
        rw [only.registry, if_pos rfl, Registry.get?_edited, found]
        rfl
    | some entry =>
        have registered : (before.registry logger.registry).isRegistered logger.service = true := by
          rw [Registry.isRegistered, found]
          rfl
        have bound : logger.boundKeys after = (entry.edited edits).boundKeys := by
          rw [only.bound_keys registered]
          simp only [Logger.boundKeys, Logger.formatter, State.boundKeys, found]
          rfl
        rw [only.registry, if_pos rfl, Registry.get?_edited, found, bound]
        simp [Entry.edited]
  · simp only [if_neg own, Option.map_id']
    rw [only.registry]
    by_cases same : id = logger.registry
    · have apart : name ≠ logger.service := fun here => own ⟨same, here⟩
      rw [if_pos same, Registry.get?_edited]
      simp only [if_neg apart, Option.map_id']
    · rw [if_neg same]

/-- Formatters of other services, and those of no service, show what they showed. -/
theorem other_keys (only : OnlyEdits logger edits before after) {formatter : Formatter}
    (other : formatter ≠ logger.formatter) :
    after.boundKeys formatter = before.boundKeys formatter := by
  cases formatter with
  | plain => rfl
  | standalone id => simp only [State.boundKeys, only.formatters]
  | service id name =>
      have apart : ¬(id = logger.registry ∧ name = logger.service) := by
        rintro ⟨rfl, rfl⟩
        exact other rfl
      simp only [State.boundKeys]
      rw [only.entries]
      simp only [if_neg apart, Option.map_id']

theorem other_lines (only : OnlyEdits logger edits before after) {formatter : Option Formatter}
    (other : formatter ≠ some logger.formatter) (record : Record) :
    after.line formatter record = before.line formatter record := by
  cases formatter with
  | none => rfl
  | some formatter =>
      have apart : formatter ≠ logger.formatter := fun same => other (congrArg some same)
      cases formatter with
      | plain => rfl
      | standalone id => simp only [State.line, only.other_keys apart]
      | service id name => simp only [State.line, only.other_keys apart]

theorem delivered (only : OnlyEdits logger edits before after) (occasion : Occasion) (id : Nat)
    (name : String) (record : Record) :
    after.delivered occasion id name record =
      if (before.registry id).isEnabled name record.level then
        ((before.registry id).audience name).filterMap (after.handover? occasion record)
      else [] := by
  unfold State.delivered
  rw [only.is_enabled, only.audience]

end OnlyEdits

/-! ## Operations of loggers -/

theorem modify_keys_only_edits (state : State) (logger : Logger) (edit : KeyEdit) :
    OnlyEdits logger [edit] state
      (state.modifyKeys logger.registry logger.service edit.apply) where
  registry := by
    intro id
    unfold modifyKeys modifyEntry
    rw [registry_setRegistry]
    by_cases same : logger.registry = id
    · rw [if_pos same, if_pos same.symm, same]
      rfl
    · rw [if_neg same, if_neg (Ne.symm same)]
  formatters := rfl
  streams := rfl

theorem inject_invocation_only_edits (state : State) (logger : Logger) (invocation : Invocation) :
    OnlyEdits logger [.append (invocation.keys state.coldStart)] state
      (state.injectInvocation logger invocation) := by
  have warmed := modify_keys_only_edits { state with coldStart := false } logger
    (.append (invocation.keys state.coldStart))
  exact ⟨warmed.registry, warmed.formatters, warmed.streams⟩

end OnlyEdits

end State

end FunctionKit.Logging
