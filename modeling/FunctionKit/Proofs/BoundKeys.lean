import FunctionKit.Proofs.AfterCopying

/-!
# Keys bound along runs

What a command does to the keys of one service is a list of edits that is told by the command and
by whether the process has served an invocation. Loggers of other services edit nothing of it. So
the keys that are bound after a run are the earlier ones with the edits of the run made in order.
-/

namespace FunctionKit.Logging

set_option autoImplicit false

open FunctionKit.ConfigRule

inductive KeyEdit
  | append (pairs : List (String × Json))
  | remove (keys : List String)
  | clear

namespace KeyEdit

def apply : KeyEdit → Fields → Fields
  | .append pairs => BoundKeys.append pairs
  | .remove keys => BoundKeys.remove keys
  | .clear => BoundKeys.clear

/-- Makes edits one after the other. -/
def applyAll (edits : List KeyEdit) (bound : Fields) : Fields :=
  edits.foldl (fun held edit => edit.apply held) bound

theorem apply_all_append (early late : List KeyEdit) (bound : Fields) :
    applyAll (early ++ late) bound = applyAll late (applyAll early bound) :=
  List.foldl_append

end KeyEdit

/-- What is bound of an invocation. -/
def Invocation.keys (invocation : Invocation) (cold : Bool) : List (String × Json) :=
  [("function_name", .string invocation.functionName),
   ("function_memory_size", .ofInt invocation.memorySize),
   ("function_arn", .string invocation.functionArn),
   ("function_request_id", .string invocation.requestId),
   ("cold_start", .bool cold),
   ("xray_trace_id", .ofOption invocation.traceId)]

/-- Edits made through a logger, as far as they concern a service of a registry. -/
def Logger.edits (logger : Logger) (id : Nat) (service : String) (edits : List KeyEdit) :
    List KeyEdit :=
  if logger.registry = id ∧ logger.service = service then edits else []

/-- The edits of an evaluation: the invocation, and the rule's name where the request tells it. -/
def evaluationEdits (cold : Bool) (invocation : Invocation) (payload : Json) : List KeyEdit :=
  .append (invocation.keys cold) ::
    match identify payload with
    | .error _ => []
    | .ok identified => [.append [("config_rule_name", .string identified.ruleName)]]

namespace Command

/-- What a command edits of the keys of a service. -/
def keyEdits (cold : Bool) (id : Nat) (service : String) : Command → List KeyEdit
  | .build blueprint _ =>
    if blueprint.isSampling then
      blueprint.logger.edits id service
        [.append [("sampling_rate", .ofBinary64 blueprint.settings.sampleRate)]]
    else []
  | .appendKeys logger pairs => logger.edits id service [.append pairs]
  | .removeKeys logger keys => logger.edits id service [.remove keys]
  | .clearKeys logger => logger.edits id service [.clear]
  | .structureKeys logger keep pairs =>
    logger.edits id service (if keep then [.append pairs] else [.clear, .append pairs])
  | .injectInvocation logger invocation =>
    logger.edits id service [.append (invocation.keys cold)]
  | .evaluate logger _ _ invocation payload =>
    logger.edits id service (evaluationEdits cold invocation payload)
  | _ => []

/-- After such a command the process is warm. -/
def servesInvocation : Command → Bool
  | .injectInvocation _ _ | .evaluate _ _ _ _ _ => true
  | _ => false

/-- Bound keys are edited, or might be. -/
def editsKeys : Command → Bool
  | .build _ _ | .appendKeys _ _ | .removeKeys _ _ | .clearKeys _ | .structureKeys _ _ _
  | .injectInvocation _ _ | .evaluate _ _ _ _ _ => true
  | _ => false

end Command

/-- What a run edits of the keys of a service, the earliest first. -/
def keyEditsOfRun (id : Nat) (service : String) : Bool → List Command → List KeyEdit
  | _, [] => []
  | cold, command :: rest =>
    command.keyEdits cold id service ++
      keyEditsOfRun id service (cold && !command.servesInvocation) rest

/-! ## Commands that leave keys alone -/

def KeepsKeys (name : String) (change : Entry → Entry) : Prop :=
  KeepsParent name change ∧ ∀ entry, (change entry).boundKeys = entry.boundKeys

theorem Command.Makes.keeps_keys {command : Command} {name : String} {change : Entry → Entry}
    (makes : command.Makes name change) (quiet : command.editsKeys = false) :
    KeepsKeys name change := by
  cases command with
  | setLevel | setServiceLevel | setPropagate | setHandlers | addHandler =>
      obtain ⟨_, rfl⟩ := makes
      exact ⟨fun _ => rfl, fun _ => rfl⟩
  | copyConfiguration =>
      obtain ⟨_, _, rfl⟩ := makes
      exact ⟨fun _ => rfl, fun _ => rfl⟩
  | build | appendKeys | removeKeys | clearKeys | structureKeys | injectInvocation | evaluate =>
      cases quiet
  | register | deliver | dispatch | openStream | addFormatter | report | log | logException
  | logIncoming => cases makes

theorem Registry.Grows.bound_keys {start registry : Registry}
    (grows : start.Grows KeepsKeys registry) (linked : start.Linked) {name : String}
    (registered : start.isRegistered name = true) :
    (registry.get? name).map Entry.boundKeys = (start.get? name).map Entry.boundKeys := by
  induction grows with
  | same => rfl
  | @registered before other grown ih =>
      have parents := grown.mono fun _ _ keeps => keeps.1
      obtain ⟨entry, found⟩ :=
        Option.isSome_iff_exists.mp (parents.is_registered linked registered)
      rw [← ih, found]
      cases known : before.isRegistered other with
      | true => rw [register_registered before other known, found]
      | false =>
          obtain ⟨parent, kept⟩ := entry_kept (parents.linked linked) known found
          rw [kept]
          rfl
  | @modified before other change keeps _ ih =>
      have ignored : Entry.boundKeys ∘ change = Entry.boundKeys := funext keeps.2
      rw [get?_modify, ← ih]
      by_cases same : other = name
      · rw [if_pos same, Option.map_map, ignored]
      · rw [if_neg same]

namespace State

/-- The entry of a service is there. -/
structure HasService (state : State) (id : Nat) (service : String) : Prop where
  linked : (state.registry id).Linked
  registered : (state.registry id).isRegistered service = true

section Service

variable {state after : State} {id : Nat} {service : String}

theorem HasService.grows (has : state.HasService id service)
    (grows : Grows KeepsParent state after) : after.HasService id service :=
  ⟨(grows id).linked has.linked, (grows id).is_registered has.linked has.registered⟩

theorem HasService.after_run (has : state.HasService id service) (commands : List Command) :
    (run state commands).HasService id service :=
  has.grows (run_keeps_parents commands state)

theorem HasService.bound_keys (has : state.HasService id service)
    (grows : Grows KeepsKeys state after) :
    after.boundKeys (.service id service) = state.boundKeys (.service id service) := by
  simp only [State.boundKeys, (grows id).bound_keys has.linked has.registered]

/-! ## Commands that edit keys -/

theorem modify_keys_keeps_parents (state : State) (logger : Logger) (change : Fields → Fields) :
    Grows KeepsParent state (state.modifyKeys logger.registry logger.service change) :=
  (state.modify_keys_grows _ _ change).mono fun _ _ rebinds => rebinds.keeps_route.1

/-- Keys that are bound through a logger are bound in its service and nowhere else. -/
theorem HasService.bound_keys_of_edit (has : state.HasService id service) (logger : Logger)
    (edit : KeyEdit) :
    (state.modifyKeys logger.registry logger.service edit.apply).boundKeys (.service id service) =
      KeyEdit.applyAll (logger.edits id service [edit])
        (state.boundKeys (.service id service)) := by
  obtain ⟨entry, found⟩ := Option.isSome_iff_exists.mp has.registered
  unfold Logger.edits
  simp only [State.boundKeys, modifyKeys, modifyEntry, registry_setRegistry]
  by_cases sameRegistry : logger.registry = id
  · subst sameRegistry
    rw [if_pos rfl, Registry.get?_modify, found]
    by_cases sameService : logger.service = service
    · rw [if_pos sameService, if_pos ⟨rfl, sameService⟩]
      rfl
    · rw [if_neg sameService, if_neg fun both => sameService both.2]
      rfl
  · rw [if_neg sameRegistry, if_neg fun both => sameRegistry both.1]
    rfl

theorem edits_cons (logger : Logger) (edit : KeyEdit) (edits : List KeyEdit) :
    logger.edits id service (edit :: edits) =
      logger.edits id service [edit] ++ logger.edits id service edits := by
  unfold Logger.edits
  split <;> rfl

/-- What a command does to the keys of a service and to the cold start of the process. -/
def Does (id : Nat) (service : String) (command : Command) : Prop :=
  ∀ state : State, state.HasService id service →
    (state.perform command).boundKeys (.service id service) =
        KeyEdit.applyAll (command.keyEdits state.coldStart id service)
          (state.boundKeys (.service id service)) ∧
      (state.perform command).coldStart = (state.coldStart && !command.servesInvocation)

theorem cold_start_of_build (state : State) (blueprint : Blueprint) (draw : Draw) :
    (state.build blueprint draw).coldStart = state.coldStart := by
  have prepared : (state.prepare blueprint).coldStart = state.coldStart := by
    unfold prepare
    dsimp only
    split <;> rfl
  cases part : blueprint.child with
  | some child =>
      rw [build_child_eq state part]
      exact prepared
  | none =>
      rw [build_service_eq state part]
      exact prepared

theorem cold_start_of_dispatch (state : State) (id : Nat) (event : TraceEvent) (time : Timestamp) :
    (state.dispatch id event time).coldStart = state.coldStart := by
  unfold dispatch
  split
  · rfl
  · dsimp only
    split
    · exact (deliver_only_writes _ _ _ _ _).coldStart
    · rfl

theorem cold_start_of_copy (state : State) (id : Nat) (source : Logger) (options : CopyOptions) :
    (state.copyConfiguration id source options).coldStart = state.coldStart := by
  cases held : source.handler? state with
  | none =>
      rw [copy_configuration_without_handler id options held]
      rfl
  | some handler => exact (copy_configuration_reconfigures id options held).coldStart

theorem does_nothing_to_keys {command : Command} (quiet : command.editsKeys = false) :
    Does id service command := by
  intro state has
  have grows : Grows KeepsKeys state (state.perform command) :=
    (state.perform_grows command).mono fun _ _ makes => makes.keeps_keys quiet
  have bound := has.bound_keys grows
  cases command with
  | register | setLevel | setServiceLevel | setPropagate | setHandlers | addHandler | openStream
  | addFormatter | report => exact ⟨bound, (Bool.and_true _).symm⟩
  | deliver | log | logException =>
      exact ⟨bound, (deliver_only_writes _ _ _ _ _).coldStart.trans (Bool.and_true _).symm⟩
  | logIncoming logger site event =>
      refine ⟨bound, Eq.trans ?_ (Bool.and_true _).symm⟩
      unfold perform logIncoming
      dsimp only
      split
      · exact (deliver_only_writes _ _ _ _ _).coldStart
      · rfl
  | dispatch id event time =>
      exact ⟨bound, (state.cold_start_of_dispatch id event time).trans (Bool.and_true _).symm⟩
  | copyConfiguration id source options =>
      exact ⟨bound, (state.cold_start_of_copy id source options).trans (Bool.and_true _).symm⟩
  | build | appendKeys | removeKeys | clearKeys | structureKeys | injectInvocation | evaluate =>
      cases quiet

/-- What a build does after the preparation leaves all keys alone. -/
theorem HasService.bound_keys_of_build {blueprint : Blueprint}
    (has : (state.prepare blueprint).HasService id service) (draw : Draw) :
    (state.build blueprint draw).boundKeys (.service id service) =
      (state.prepare blueprint).boundKeys (.service id service) := by
  apply has.bound_keys
  cases part : blueprint.child with
  | some child =>
      rw [build_child_eq state part]
      exact register_grows _ _ _
  | none =>
      rw [build_service_eq state part]
      exact modify_entry_grows _ _ _ ⟨fun _ => rfl, fun _ => rfl⟩

theorem build_does (blueprint : Blueprint) (draw : Draw) :
    Does id service (.build blueprint draw) := by
  intro state has
  refine ⟨?_, (state.cold_start_of_build blueprint draw).trans (Bool.and_true _).symm⟩
  have registers : Grows KeepsKeys state
      (state.register blueprint.registry blueprint.settings.service) := register_grows _ _ _
  have hasRegistered := has.grows (registers.mono fun _ _ keeps => keeps.1)
  have prepared : (state.prepare blueprint).boundKeys (.service id service) =
      KeyEdit.applyAll ((Command.build blueprint draw).keyEdits state.coldStart id service)
        (state.boundKeys (.service id service)) := by
    have sampled := hasRegistered.bound_keys_of_edit blueprint.logger
      (.append [("sampling_rate", .ofBinary64 blueprint.settings.sampleRate)])
    rw [has.bound_keys registers] at sampled
    unfold prepare Command.keyEdits
    dsimp only
    split
    · exact sampled
    · exact has.bound_keys registers
  have hasPrepared : (state.prepare blueprint).HasService id service :=
    has.grows ((state.prepare_grows blueprint).mono fun _ _ rebinds => rebinds.keeps_route.1)
  rw [perform, hasPrepared.bound_keys_of_build draw, prepared]

theorem structure_keys_does (logger : Logger) (keep : Bool) (pairs : List (String × Json)) :
    Does id service (.structureKeys logger keep pairs) := by
  intro state has
  cases keep with
  | true => exact ⟨has.bound_keys_of_edit logger (.append pairs), (Bool.and_true _).symm⟩
  | false =>
      have cleared := has.bound_keys_of_edit logger .clear
      have hasCleared := has.grows (state.modify_keys_keeps_parents logger BoundKeys.clear)
      have appended := hasCleared.bound_keys_of_edit logger (.append pairs)
      refine ⟨?_, (Bool.and_true _).symm⟩
      change _ = KeyEdit.applyAll (logger.edits id service [.clear, .append pairs]) _
      rw [edits_cons, KeyEdit.apply_all_append, ← cleared]
      exact appended

theorem inject_invocation_does (logger : Logger) (invocation : Invocation) :
    Does id service (.injectInvocation logger invocation) := by
  intro state has
  have hasWarm : ({ state with coldStart := false } : State).HasService id service :=
    ⟨has.linked, has.registered⟩
  exact ⟨hasWarm.bound_keys_of_edit logger (.append (invocation.keys state.coldStart)),
    (Bool.and_false _).symm⟩

/-! ## Runs -/

theorem run_does {commands : List Command} (does : ∀ command ∈ commands, Does id service command)
    (state : State) (has : state.HasService id service) :
    (run state commands).boundKeys (.service id service) =
        KeyEdit.applyAll (keyEditsOfRun id service state.coldStart commands)
          (state.boundKeys (.service id service)) ∧
      (run state commands).coldStart =
        (state.coldStart && !commands.any Command.servesInvocation) := by
  induction commands generalizing state with
  | nil => exact ⟨rfl, (Bool.and_true _).symm⟩
  | cons command rest ih =>
      obtain ⟨keys, cold⟩ := does command List.mem_cons_self state has
      have hasNext : (state.perform command).HasService id service := has.after_run [command]
      obtain ⟨restKeys, restCold⟩ :=
        ih (fun other member => does other (List.mem_cons_of_mem _ member)) _ hasNext
      constructor
      · change (run (state.perform command) rest).boundKeys _ = _
        rw [restKeys, cold, keys, keyEditsOfRun, KeyEdit.apply_all_append]
      · change (run (state.perform command) rest).coldStart = _
        rw [restCold, cold, List.any_cons, Bool.not_or, Bool.and_assoc]

/-- The commands that an evaluation comes down to. -/
def evaluationSteps (logger : Logger) (eventSite outcomeSite : CallSite) (invocation : Invocation)
    (payload : Json) : List Command :=
  .injectInvocation logger invocation :: .logIncoming logger eventSite (.ok payload) ::
    match identify payload with
    | .error _ => []
    | .ok identified =>
      .appendKeys logger [("config_rule_name", .string identified.ruleName)] ::
        match identified.assess with
        | .error _ => []
        | .ok evaluation => [.log logger outcomeSite .info evaluation.summary []]

theorem evaluate_eq_run (state : State) (logger : Logger) (eventSite outcomeSite : CallSite)
    (invocation : Invocation) (payload : Json) :
    state.evaluate logger eventSite outcomeSite invocation payload =
      run state (evaluationSteps logger eventSite outcomeSite invocation payload) := by
  unfold evaluate evaluationSteps
  dsimp only
  cases identify payload with
  | error fault => rfl
  | ok identified =>
      dsimp only
      cases identified.assess <;> rfl

theorem evaluate_does (logger : Logger) (eventSite outcomeSite : CallSite) (invocation : Invocation)
    (payload : Json) :
    Does id service (.evaluate logger eventSite outcomeSite invocation payload) := by
  intro state has
  have appended : ∀ pairs, Does id service (.appendKeys logger pairs) :=
    fun pairs _ has => ⟨has.bound_keys_of_edit logger (.append pairs), (Bool.and_true _).symm⟩
  have received : ∀ event, Does id service (.logIncoming logger eventSite event) :=
    fun _ => does_nothing_to_keys rfl
  have logged : ∀ level message extra,
      Does id service (.log logger outcomeSite level message extra) :=
    fun _ _ _ => does_nothing_to_keys rfl
  have does : ∀ command ∈ evaluationSteps logger eventSite outcomeSite invocation payload,
      Does id service command := by
    unfold evaluationSteps
    cases identify payload with
    | error fault => simp [inject_invocation_does, received]
    | ok identified =>
        dsimp only
        cases identified.assess <;> simp [inject_invocation_does, received, appended, logged]
  have edits : keyEditsOfRun id service state.coldStart
        (evaluationSteps logger eventSite outcomeSite invocation payload) =
      logger.edits id service (evaluationEdits state.coldStart invocation payload) := by
    unfold evaluationSteps evaluationEdits
    rw [edits_cons]
    cases identify payload with
    | error fault => simp [keyEditsOfRun, Command.keyEdits, Logger.edits]
    | ok identified =>
        dsimp only
        cases identified.assess <;> simp [keyEditsOfRun, Command.keyEdits]
  have serves : (evaluationSteps logger eventSite outcomeSite invocation payload).any
      Command.servesInvocation = true := rfl
  obtain ⟨keys, cold⟩ := run_does does state has
  rw [edits] at keys
  rw [serves] at cold
  rw [perform, evaluate_eq_run]
  exact ⟨keys, cold⟩

theorem every_command_does (command : Command) : Does id service command := by
  cases command with
  | appendKeys logger pairs =>
      exact fun _ has => ⟨has.bound_keys_of_edit logger (.append pairs), (Bool.and_true _).symm⟩
  | removeKeys logger keys =>
      exact fun _ has => ⟨has.bound_keys_of_edit logger (.remove keys), (Bool.and_true _).symm⟩
  | clearKeys logger =>
      exact fun _ has => ⟨has.bound_keys_of_edit logger .clear, (Bool.and_true _).symm⟩
  | structureKeys logger keep pairs => exact structure_keys_does logger keep pairs
  | injectInvocation logger invocation => exact inject_invocation_does logger invocation
  | build blueprint draw => exact build_does blueprint draw
  | evaluate logger eventSite outcomeSite invocation payload =>
      exact evaluate_does logger eventSite outcomeSite invocation payload
  | register | setLevel | setServiceLevel | setPropagate | setHandlers | addHandler | deliver
  | dispatch | openStream | addFormatter | report | log | logException | logIncoming
  | copyConfiguration => exact does_nothing_to_keys rfl

/-- The keys of a service after a run are the earlier ones with the edits of the run made. -/
theorem run_bound_keys (commands : List Command) (has : state.HasService id service) :
    (run state commands).boundKeys (.service id service) =
      KeyEdit.applyAll (keyEditsOfRun id service state.coldStart commands)
        (state.boundKeys (.service id service)) :=
  (run_does (fun command _ => every_command_does command) state has).1

end Service

end State

end FunctionKit.Logging
