import FunctionKit.Proofs.LastEdits

/-!
# Operations on the keys of a service

A pair that is appended decides what its key is bound to, unless the same call appends a later one
for it. A removal unbinds what it names, and clearing unbinds all but the key of the service. So
what a key is bound to after some operations is what the last one that decides it has left, and null
is bound by none of them.
-/

namespace FunctionKit.Logging

set_option autoImplicit false

open FunctionKit.ConfigRule

namespace Command

/-- The command appends, removes, clears or structures keys through a logger of the service. -/
def OperatesOnKeys (id : Nat) (service : String) : Command → Prop
  | .appendKeys logger _ | .removeKeys logger _ | .clearKeys logger | .structureKeys logger _ _ =>
    logger.registry = id ∧ logger.service = service
  | _ => False

def appendedPairs : Command → List (String × Json)
  | .appendKeys _ pairs | .structureKeys _ _ pairs => pairs
  | _ => []

def removedKeys : Command → List String
  | .removeKeys _ keys => keys
  | _ => []

/-- Keys that were bound before the command are cleared. -/
def clearsKeys : Command → Bool
  | .clearKeys _ => true
  | .structureKeys _ keep _ => !keep
  | _ => false

/-- What a command leaves a key bound to, if it decides that. -/
inductive Decides (key : String) (command : Command) : Option Json → Prop
  | binds {early late : List (String × Json)} {value : Json}
      (appended : command.appendedPairs = early ++ (key, value) :: late)
      (last : key ∉ Dict.keys late) (proper : value ≠ .null) : Decides key command (some value)
  | unbinds {early late : List (String × Json)}
      (appended : command.appendedPairs = early ++ (key, .null) :: late)
      (last : key ∉ Dict.keys late) : Decides key command none
  | removes (named : key ∈ command.removedKeys) : Decides key command none
  | clears (cleared : command.clearsKeys = true) (other : key ≠ BoundKeys.serviceKey)
      (unlisted : key ∉ Dict.keys command.appendedPairs) : Decides key command none

end Command

/-- Null is bound to no key. -/
def NullFree (bound : Fields) : Prop :=
  ∀ key, Dict.get? key bound ≠ some .null

theorem bound_as_eq_some {value bound : Json} :
    boundAs value = some bound ↔ value ≠ .null ∧ value = bound := by
  cases value <;> simp [boundAs, Json.isNull]

theorem bound_as_eq_none {value : Json} : boundAs value = none ↔ value = .null := by
  cases value <;> simp [boundAs, Json.isNull]

/-! ## Single operations -/

namespace Command

variable {id : Nat} {service key : String} {command : Command} {outcome : Option Json}

theorem appended_of_removed (named : key ∈ command.removedKeys) : command.appendedPairs = [] := by
  cases command with
  | removeKeys => rfl
  | _ => cases named

/-- Pairs that are appended have the last word, before them what is removed or cleared. -/
theorem OperatesOnKeys.last_word (operates : command.OperatesOnKeys id service) (cold : Bool) :
    KeyEdit.lastWord? key (command.keyEdits cold id service) =
      ((Dict.lastValue? key command.appendedPairs).map boundAs).or
        (if key ∈ command.removedKeys ∨ command.clearsKeys = true ∧ key ≠ BoundKeys.serviceKey then
          some none
        else none) := by
  cases command with
  | appendKeys | removeKeys | clearKeys =>
      obtain ⟨rfl, rfl⟩ := operates
      simp [keyEdits, Logger.edits, KeyEdit.last_word_single, KeyEdit.word?, appendedPairs,
        removedKeys, clearsKeys, Dict.lastValue?]
  | structureKeys logger keep pairs =>
      obtain ⟨rfl, rfl⟩ := operates
      cases keep with
      | true =>
          simp [keyEdits, Logger.edits, KeyEdit.last_word_single, KeyEdit.word?, appendedPairs,
            removedKeys, clearsKeys]
      | false =>
          -- the pairs come after the clearing, so they are asked first
          have inOrder := KeyEdit.last_word_append key [.clear] [.append pairs]
          rw [KeyEdit.last_word_single, KeyEdit.last_word_single] at inOrder
          simpa [keyEdits, Logger.edits, KeyEdit.word?, appendedPairs, removedKeys, clearsKeys]
            using inOrder
  | register | setLevel | setServiceLevel | setPropagate | setHandlers | addHandler | deliver
  | dispatch | openStream | addFormatter | report | log | logException | logIncoming | build
  | injectInvocation | copyConfiguration | evaluate => exact operates.elim

/-- An operation leaves a key as the last word of its edits says. -/
theorem decides_iff (operates : command.OperatesOnKeys id service) (cold : Bool) :
    command.Decides key outcome ↔
      KeyEdit.lastWord? key (command.keyEdits cold id service) = some outcome := by
  rw [operates.last_word]
  constructor
  · rintro (⟨appended, last, proper⟩ | ⟨appended, last⟩ | named | ⟨cleared, other, unlisted⟩)
    · rw [Dict.last_value_iff.mpr ⟨_, _, appended, last⟩]
      exact congrArg some (bound_as_eq_some.mpr ⟨proper, rfl⟩)
    · rw [Dict.last_value_iff.mpr ⟨_, _, appended, last⟩]
      rfl
    · rw [appended_of_removed named, if_pos (Or.inl named)]
      rfl
    · rw [Dict.last_value_of_absent unlisted, if_pos (Or.inr ⟨cleared, other⟩)]
      rfl
  · intro word
    cases found : Dict.lastValue? key command.appendedPairs with
    | some value =>
        obtain ⟨early, late, appended, last⟩ := Dict.last_value_iff.mp found
        rw [found] at word
        have bound : boundAs value = outcome := Option.some.inj word
        cases outcome with
        | some other =>
            obtain ⟨proper, rfl⟩ := bound_as_eq_some.mp bound
            exact .binds appended last proper
        | none =>
            cases bound_as_eq_none.mp bound
            exact .unbinds appended last
    | none =>
        rw [found] at word
        by_cases drops : key ∈ command.removedKeys ∨
            command.clearsKeys = true ∧ key ≠ BoundKeys.serviceKey
        · rw [if_pos drops] at word
          cases word
          rcases drops with named | ⟨cleared, other⟩
          · exact .removes named
          · exact .clears cleared other (Dict.last_value_eq_none_iff.mp found)
        · rw [if_neg drops] at word
          cases word

theorem undecided_iff (operates : command.OperatesOnKeys id service) (cold : Bool) :
    (∀ outcome, ¬command.Decides key outcome) ↔
      KeyEdit.lastWord? key (command.keyEdits cold id service) = none := by
  simp only [decides_iff operates cold]
  exact Option.eq_none_iff_forall_ne_some.symm

/-- Where it is not appended, the key of the service outlasts clearing. -/
theorem service_key_undecided (cleared : command.clearsKeys = true)
    (unlisted : BoundKeys.serviceKey ∉ Dict.keys command.appendedPairs) :
    ¬command.Decides BoundKeys.serviceKey outcome := by
  rintro (⟨appended, _, _⟩ | ⟨appended, _⟩ | named | ⟨_, other, _⟩)
  · exact unlisted (by simp [appended, Dict.keys])
  · exact unlisted (by simp [appended, Dict.keys])
  · cases command with
    | removeKeys => cases cleared
    | _ => cases named
  · exact other rfl

end Command

theorem KeyEdit.word_is_proper (key : String) (edit : KeyEdit) :
    edit.word? key ≠ some (some .null) := by
  cases edit with
  | append pairs =>
      intro said
      obtain ⟨value, _, bound⟩ := Option.map_eq_some_iff.mp said
      obtain ⟨proper, null⟩ := bound_as_eq_some.mp bound
      exact proper null
  | remove keys => simp [word?]
  | clear => simp [word?]

theorem NullFree.apply {bound : Fields} (free : NullFree bound) (edit : KeyEdit) :
    NullFree (edit.apply bound) := by
  intro key
  rw [KeyEdit.get?_apply]
  cases said : edit.word? key with
  | none => exact free key
  | some outcome =>
      intro null
      exact KeyEdit.word_is_proper key edit (said.trans (congrArg some null))

theorem NullFree.apply_all {bound : Fields} (free : NullFree bound) (edits : List KeyEdit) :
    NullFree (KeyEdit.applyAll edits bound) := by
  induction edits generalizing bound with
  | nil => exact free
  | cons edit rest ih => exact ih (free.apply edit)

/-! ## Runs -/

namespace State

section Service

variable {state : State} {id : Nat} {service key : String} {commands : List Command}

theorem HasService.null_free_after_run (has : state.HasService id service)
    (free : NullFree (state.boundKeys (.service id service))) (commands : List Command) :
    NullFree ((run state commands).boundKeys (.service id service)) := by
  rw [run_bound_keys commands has]
  exact free.apply_all _

theorem HasService.get?_after (has : state.HasService id service) (command : Command) :
    Dict.get? key ((state.perform command).boundKeys (.service id service)) =
      (KeyEdit.lastWord? key (command.keyEdits state.coldStart id service)).getD
        (Dict.get? key (state.boundKeys (.service id service))) := by
  rw [(every_command_does command state has).1, KeyEdit.get?_apply_all]

theorem HasService.decided_key (has : state.HasService id service) {command : Command}
    (operates : command.OperatesOnKeys id service) {outcome : Option Json}
    (decides : command.Decides key outcome) :
    Dict.get? key ((state.perform command).boundKeys (.service id service)) = outcome := by
  rw [has.get?_after, (Command.decides_iff operates state.coldStart).mp decides]
  rfl

theorem HasService.undecided_key (has : state.HasService id service) {command : Command}
    (operates : command.OperatesOnKeys id service)
    (undecided : ∀ outcome, ¬command.Decides key outcome) :
    Dict.get? key ((state.perform command).boundKeys (.service id service)) =
      Dict.get? key (state.boundKeys (.service id service)) := by
  rw [has.get?_after, (Command.undecided_iff operates state.coldStart).mp undecided]
  rfl

/-- A key that no operation of a run decides stays bound to what it was bound to. -/
theorem HasService.undecided_key_after_run (has : state.HasService id service)
    (operate : ∀ command ∈ commands, command.OperatesOnKeys id service)
    (undecided : ∀ command ∈ commands, ∀ outcome, ¬command.Decides key outcome) :
    Dict.get? key ((run state commands).boundKeys (.service id service)) =
      Dict.get? key (state.boundKeys (.service id service)) := by
  induction commands generalizing state with
  | nil => rfl
  | cons command rest ih =>
      have first := has.undecided_key (operate command List.mem_cons_self)
        (undecided command List.mem_cons_self)
      have later := ih (has.after_run [command])
        (fun other member => operate other (List.mem_cons_of_mem _ member))
        (fun other member => undecided other (List.mem_cons_of_mem _ member))
      exact later.trans first

end Service

/-- Operations on the keys of a service, through whichever of its loggers they are made, bind null
to no key at any moment. What a key is bound to after them is what the last one that decides it has
left, and what it was bound to before if none does. The key of the service stays as it is when keys
are cleared or replaced, unless it is among those that are appended. -/
theorem keys_are_as_their_last_operation_left_them (state : State) {id : Nat} {service : String}
    (has : state.HasService id service)
    (free : NullFree (state.boundKeys (.service id service))) (commands : List Command)
    (operate : ∀ command ∈ commands, command.OperatesOnKeys id service) :
    let bound := fun performed => (run state performed).boundKeys (.service id service)
    (∀ earlier, earlier <+: commands → NullFree (bound earlier)) ∧
      (∀ key, (∀ command ∈ commands, ∀ outcome, ¬command.Decides key outcome) →
        Dict.get? key (bound commands) = Dict.get? key (bound [])) ∧
      (∀ key earlier command later outcome, commands = earlier ++ command :: later →
        command.Decides key outcome →
        (∀ other ∈ later, ∀ outcome, ¬other.Decides key outcome) →
        Dict.get? key (bound commands) = outcome) ∧
      ∀ earlier command, earlier ++ [command] <+: commands → command.clearsKeys = true →
        BoundKeys.serviceKey ∉ Dict.keys command.appendedPairs →
        Dict.get? BoundKeys.serviceKey (bound (earlier ++ [command])) =
          Dict.get? BoundKeys.serviceKey (bound earlier) := by
  intro bound
  refine ⟨fun earlier _ => has.null_free_after_run free earlier,
    fun key undecided => has.undecided_key_after_run operate undecided, ?_, ?_⟩
  · intro key earlier command later outcome split decides undecided
    subst split
    have hasThen := has.after_run earlier
    have hasNext := hasThen.after_run [command]
    have decided := hasThen.decided_key (operate command (by simp)) decides
    have stays := hasNext.undecided_key_after_run
      (fun other member => operate other (by simp [member])) undecided
    change Dict.get? key ((run state (earlier ++ command :: later)).boundKeys _) = outcome
    rw [run_append]
    exact stays.trans decided
  · intro earlier command performed cleared unlisted
    have operates : command.OperatesOnKeys id service :=
      operate command (performed.subset (by simp))
    change Dict.get? _ ((run state (earlier ++ [command])).boundKeys _) = _
    rw [run_append]
    exact (has.after_run earlier).undecided_key operates fun _ =>
      Command.service_key_undecided cleared unlisted

/-- The service replaces the keys, `cart` is given twice for them. Its worker then binds and unbinds
`order` in one call. -/
theorem a_replacement_drops_the_tenant :
    let settings : Settings := ⟨"pay", .info, .zero, false⟩
    let pay : Blueprint := ⟨0, settings, none, none⟩
    let worker : Blueprint := ⟨0, settings, some "worker", none⟩
    let state := run .initial [.build pay .least, .build worker .least,
      .appendKeys pay.logger [("tenant", .string "north")]]
    let replaces : Command :=
      .structureKeys pay.logger false [("cart", .string "first"), ("cart", .string "second")]
    let appends : Command :=
      .appendKeys worker.logger [("order", .string "7"), ("order", .null)]
    let commands := [replaces, appends]
    let bound := fun performed => (run state performed).boundKeys (.service 0 "pay")
    state.HasService 0 "pay" ∧ NullFree (state.boundKeys (.service 0 "pay")) ∧
      (∀ command ∈ commands, command.OperatesOnKeys 0 "pay") ∧
      NullFree (bound commands) ∧
      Dict.get? "tenant" (state.boundKeys (.service 0 "pay")) = some (.string "north") ∧
      Dict.get? "tenant" (bound commands) = none ∧
      Dict.get? "cart" (bound commands) = some (.string "second") ∧
      Dict.get? "order" (bound commands) = none ∧
      Dict.get? BoundKeys.serviceKey (bound [replaces]) = some (.string "pay") := by
  intro settings pay worker state replaces appends commands bound
  have reachable : state.Reachable := ⟨.initial, _, .inl rfl, rfl⟩
  have has : state.HasService 0 "pay" := ⟨reachable_linked reachable 0, by decide⟩
  have held : state.boundKeys (.service 0 "pay") =
      [("service", .string "pay"), ("tenant", .string "north")] := by
    dsimp +zetaDelta only
    rfl
  have free : NullFree (state.boundKeys (.service 0 "pay")) := by
    intro key
    rw [held]
    simp only [Dict.get?]
    split_ifs <;> simp
  -- from here on the state is told by what it has bound
  clear_value state
  have operate : ∀ command ∈ commands, command.OperatesOnKeys 0 "pay" :=
    List.forall_mem_cons.mpr ⟨⟨rfl, rfl⟩, List.forall_mem_singleton.mpr ⟨rfl, rfl⟩⟩
  have appendsOrder : ∀ key, key ≠ "order" →
      ∀ other ∈ [appends], ∀ outcome, ¬other.Decides key outcome := by
    intro key apart other member
    rw [List.mem_singleton.mp member]
    apply (Command.undecided_iff (operate appends (by simp [commands])) true).mpr
    have unnamed : key ∉ Dict.keys appends.appendedPairs := by
      simp [appends, Command.appendedPairs, Dict.keys, apart]
    rw [(operate appends (by simp [commands])).last_word, Dict.last_value_of_absent unnamed]
    rfl
  obtain ⟨frees, _, last, survives⟩ :=
    keys_are_as_their_last_operation_left_them state has free commands operate
  refine ⟨has, free, operate, frees _ (List.prefix_refl _), by rw [held]; rfl, ?_, ?_, ?_, ?_⟩
  · exact last "tenant" [] replaces [appends] none rfl (.clears rfl (by decide) (by decide))
      (appendsOrder "tenant" (by decide))
  · have second : replaces.Decides "cart" (some (.string "second")) :=
      .binds (by rfl : _ = [("cart", .string "first")] ++ _ :: []) List.not_mem_nil (by simp)
    exact last "cart" [] replaces [appends] _ rfl second (appendsOrder "cart" (by decide))
  · have unbinds : appends.Decides "order" none :=
      .unbinds (by rfl : _ = [("order", .string "7")] ++ _ :: []) List.not_mem_nil
    exact last "order" [replaces] appends [] none rfl unbinds (List.forall_mem_nil _)
  · have kept : Dict.get? BoundKeys.serviceKey (bound [replaces]) =
        Dict.get? BoundKeys.serviceKey (state.boundKeys (.service 0 "pay")) :=
      survives [] replaces ⟨[appends], rfl⟩ rfl (by decide)
    rw [kept, held]
    rfl

end State

end FunctionKit.Logging
