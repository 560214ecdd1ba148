import FunctionKit.Proofs.BuiltLoggers
import FunctionKit.Proofs.EvaluationEffects
import FunctionKit.Proofs.KeyOperations

/-!
# The keys of the last invocation

An invocation binds or unbinds all of its keys at once, in the service it is made through and in no
other. So what a service shows of invocations is its last one, with nothing left of those before,
and a service without one shows nothing. Of all services of a process only the one that is invoked
first is told to start cold.
-/

namespace FunctionKit.Logging

set_option autoImplicit false

open FunctionKit.ConfigRule

/-- The keys that tell of an invocation. -/
def invocationKeys : List String :=
  ["function_name", "function_memory_size", "function_arn", "function_request_id", "cold_start",
   "xray_trace_id"]

/-- All keys of an invocation are bound to what it says, and the one of its trace only if it has
one. -/
structure ShowsInvocation (bound : Fields) (invocation : Invocation) (cold : Bool) : Prop where
  functionName : Dict.get? "function_name" bound = some (.string invocation.functionName)
  memorySize : Dict.get? "function_memory_size" bound = some (.ofInt invocation.memorySize)
  functionArn : Dict.get? "function_arn" bound = some (.string invocation.functionArn)
  requestId : Dict.get? "function_request_id" bound = some (.string invocation.requestId)
  coldStart : Dict.get? "cold_start" bound = some (.bool cold)
  traceId : Dict.get? "xray_trace_id" bound = invocation.traceId.map .string

theorem shows_invocation_of_values {bound : Fields} {invocation : Invocation} {cold : Bool}
    (values : ∀ key ∈ invocationKeys, Dict.get? key bound =
      (Dict.lastValue? key (invocation.keys cold)).bind boundAs) :
    ShowsInvocation bound invocation cold where
  functionName := values _ (by decide)
  memorySize := values _ (by decide)
  functionArn := values _ (by decide)
  requestId := values _ (by decide)
  coldStart := values _ (by decide)
  traceId := by
    rw [values _ (by decide)]
    change boundAs (.ofOption invocation.traceId) = _
    cases invocation.traceId <;> rfl

theorem invocation_key_is_not_service {key : String} (member : key ∈ invocationKeys) :
    key ≠ BoundKeys.serviceKey := by
  rintro rfl
  exact absurd member (by decide)

theorem invocation_key_is_not_rate {key : String} (member : key ∈ invocationKeys) :
    key ≠ samplingRateKey := by
  rintro rfl
  exact absurd member (by decide)

namespace Command

/-- The logger through which a command binds an invocation. -/
def invoker? : Command → Option Logger
  | .injectInvocation logger _ | .evaluate logger _ _ _ _ => some logger
  | _ => none

/-- The invocation that a command binds in a service of a registry. -/
def invoked? (id : Nat) (service : String) : Command → Option Invocation
  | .injectInvocation logger invocation | .evaluate logger _ _ invocation _ =>
    if logger.registry = id ∧ logger.service = service then some invocation else none
  | _ => none

/-- The command says nothing of the keys of invocations, unless it binds one. -/
def LeavesInvocations : Command → Prop
  | .appendKeys _ pairs => ∀ key ∈ invocationKeys, key ∉ Dict.keys pairs
  | .removeKeys _ keys => ∀ key ∈ invocationKeys, key ∉ keys
  | .clearKeys _ => False
  | .structureKeys _ keep pairs =>
    keep = true ∧ ∀ key ∈ invocationKeys, key ∉ Dict.keys pairs
  | _ => True

section Words

variable {id : Nat} {service key : String} {command : Command} {invocation : Invocation}

theorem invoker_of_invoked (invoked : command.invoked? id service = some invocation) :
    ∃ logger ∈ command.invoker?, logger.registry = id ∧ logger.service = service := by
  cases command with
  | injectInvocation logger _ | evaluate logger _ _ _ _ =>
      refine ⟨logger, rfl, ?_⟩
      by_contra elsewhere
      rw [invoked?, if_neg elsewhere] at invoked
      cases invoked
  | register | setLevel | setServiceLevel | setPropagate | setHandlers | addHandler | deliver
  | dispatch | openStream | addFormatter | report | log | logException | logIncoming | build
  | appendKeys | removeKeys | clearKeys | structureKeys | copyConfiguration => cases invoked

theorem last_word_of_edits (logger : Logger) (edits : List KeyEdit) :
    KeyEdit.lastWord? key (logger.edits id service edits) =
      if logger.registry = id ∧ logger.service = service then KeyEdit.lastWord? key edits
      else none := by
  unfold Logger.edits
  split <;> rfl

theorem LeavesInvocations.last_word (leaves : command.LeavesInvocations)
    (other : command.invoked? id service = none) (member : key ∈ invocationKeys) (cold : Bool) :
    KeyEdit.lastWord? key (command.keyEdits cold id service) = none := by
  cases command with
  | build blueprint draw =>
      have unnamed : Dict.lastValue? key
          [(samplingRateKey, Json.ofBinary64 blueprint.settings.sampleRate)] = none :=
        Dict.last_value_of_absent
          (by simpa [Dict.keys] using invocation_key_is_not_rate member)
      rw [samplingRateKey] at unnamed
      rw [keyEdits]
      split
      · rw [last_word_of_edits, KeyEdit.last_word_single, KeyEdit.word?, unnamed]
        exact ite_self _
      · rfl
  | appendKeys logger pairs =>
      have unnamed := Dict.last_value_of_absent (leaves key member)
      rw [keyEdits, last_word_of_edits, KeyEdit.last_word_single, KeyEdit.word?, unnamed]
      exact ite_self _
  | removeKeys logger keys =>
      rw [keyEdits, last_word_of_edits, KeyEdit.last_word_single, KeyEdit.word?,
        if_neg (leaves key member)]
      exact ite_self _
  | clearKeys logger => exact leaves.elim
  | structureKeys logger keep pairs =>
      obtain ⟨kept, unlisted⟩ := leaves
      have unnamed := Dict.last_value_of_absent (unlisted key member)
      rw [keyEdits, if_pos kept, last_word_of_edits, KeyEdit.last_word_single, KeyEdit.word?,
        unnamed]
      exact ite_self _
  | injectInvocation logger invocation | evaluate logger _ invocation _ =>
      have elsewhere : ¬(logger.registry = id ∧ logger.service = service) := by
        intro own
        rw [invoked?, if_pos own] at other
        cases other
      rw [keyEdits, last_word_of_edits, if_neg elsewhere]
  | register | setLevel | setServiceLevel | setPropagate | setHandlers | addHandler | deliver
  | dispatch | openStream | addFormatter | report | log | logException | logIncoming
  | copyConfiguration => rfl

/-- Of its own keys an invocation has the last word, also in an evaluation. -/
theorem last_word_of_invoked (invoked : command.invoked? id service = some invocation)
    (member : key ∈ invocationKeys) (cold : Bool) :
    KeyEdit.lastWord? key (command.keyEdits cold id service) =
      (Dict.lastValue? key (invocation.keys cold)).map boundAs := by
  have apart : key ≠ ruleNameKey := by
    rintro rfl
    exact absurd member (by decide)
  cases command with
  | injectInvocation logger held =>
      by_cases own : logger.registry = id ∧ logger.service = service
      · rw [invoked?, if_pos own] at invoked
        cases invoked
        rw [keyEdits, last_word_of_edits, if_pos own, KeyEdit.last_word_single]
        rfl
      · rw [invoked?, if_neg own] at invoked
        cases invoked
  | evaluate logger eventSite outcomeSite held payload =>
      by_cases own : logger.registry = id ∧ logger.service = service
      · rw [invoked?, if_pos own] at invoked
        cases invoked
        rw [keyEdits, last_word_of_edits, if_pos own, last_word_of_evaluation, if_neg apart]
        exact Option.none_or
      · rw [invoked?, if_neg own] at invoked
        cases invoked
  | register | setLevel | setServiceLevel | setPropagate | setHandlers | addHandler | deliver
  | dispatch | openStream | addFormatter | report | log | logException | logIncoming | build
  | appendKeys | removeKeys | clearKeys | structureKeys | copyConfiguration => cases invoked

/-- The process is warm after an invocation of whatever service. -/
theorem serves_invocation_iff :
    command.servesInvocation = false ↔ ∀ id service, command.invoked? id service = none := by
  cases command with
  | injectInvocation logger invocation | evaluate logger _ invocation _ =>
      refine ⟨fun quiet => absurd quiet (by simp [servesInvocation]), fun nowhere => ?_⟩
      have own := nowhere logger.registry logger.service
      rw [invoked?, if_pos ⟨rfl, rfl⟩] at own
      cases own
  | register | setLevel | setServiceLevel | setPropagate | setHandlers | addHandler | deliver
  | dispatch | openStream | addFormatter | report | log | logException | logIncoming | build
  | appendKeys | removeKeys | clearKeys | structureKeys | copyConfiguration =>
      exact ⟨fun _ _ _ => rfl, fun _ => rfl⟩

end Words

end Command

/-- Where keys are left alone, a service shows what it did, whether its name was registered or not:
a new entry has nothing bound but its name. -/
theorem Registry.Grows.service_keys {start registry : Registry}
    (grows : start.Grows KeepsKeys registry) (linked : start.Linked) (name : String) :
    ((registry.get? name).map Entry.boundKeys).getD (BoundKeys.initial name) =
      ((start.get? name).map Entry.boundKeys).getD (BoundKeys.initial name) := by
  induction grows with
  | same => rfl
  | @registered before other grown ih =>
      rw [← ih]
      have linkedBefore := (grown.mono fun _ _ keeps => keeps.1).linked linked
      cases known : before.isRegistered other with
      | true => rw [register_registered before other known]
      | false =>
          by_cases here : name = other
          · subst here
            have nobody : before.get? name = none := by simpa [isRegistered] using known
            rw [get?_new linkedBefore known, nobody]
            rfl
          · rw [field_kept Entry.boundKeys (fun _ _ => rfl) linkedBefore known here]
  | @modified before other change keeps _ ih =>
      have ignored : Entry.boundKeys ∘ change = Entry.boundKeys := funext keeps.2
      rw [← ih, get?_modify]
      by_cases same : other = name
      · rw [if_pos same, Option.map_map, ignored]
      · rw [if_neg same]

namespace State

/-- Invocations are bound through loggers of services that are registered by then, as that of every
logger is once it was built. -/
def InvokesRegistered (state : State) : List Command → Prop
  | [] => True
  | command :: rest =>
    (∀ logger ∈ command.invoker?,
        (state.registry logger.registry).isRegistered logger.service = true) ∧
      (state.perform command).InvokesRegistered rest

theorem InvokesRegistered.at_split {state : State} {earlier later : List Command}
    {command : Command} (invokes : state.InvokesRegistered (earlier ++ command :: later)) :
    ∀ logger ∈ command.invoker?,
      ((run state earlier).registry logger.registry).isRegistered logger.service = true := by
  induction earlier generalizing state with
  | nil => exact invokes.1
  | cons first rest ih => exact ih invokes.2

section Service

variable {state : State} {id : Nat} {service key : String} {command : Command}
  {commands : List Command} {invocation : Invocation}

theorem bound_keys_of_unregistered
    (missing : (state.registry id).isRegistered service = false) :
    state.boundKeys (.service id service) = [] := by
  have nobody : (state.registry id).get? service = none := by
    simpa [Registry.isRegistered] using missing
  simp only [boundKeys, nobody]
  rfl

theorem get?_service_keys (other : key ≠ BoundKeys.serviceKey) :
    Dict.get? key (state.serviceKeys id service) =
      Dict.get? key (state.boundKeys (.service id service)) := by
  cases known : (state.registry id).isRegistered service with
  | true => rw [service_keys_of_registered known]
  | false =>
      have nobody : (state.registry id).get? service = none := by
        simpa [Registry.isRegistered] using known
      rw [bound_keys_of_unregistered known]
      simp [serviceKeys, nobody, BoundKeys.initial, Dict.get?, Ne.symm other]

theorem OnlyEdits.still_unregistered {logger : Logger} {edits : List KeyEdit} {after : State}
    (only : OnlyEdits logger edits state after)
    (missing : (state.registry id).isRegistered service = false) :
    after.boundKeys (.service id service) = state.boundKeys (.service id service) := by
  have still := (only.is_registered id service).trans missing
  rw [bound_keys_of_unregistered missing, bound_keys_of_unregistered still]

/-- To a service without an entry no command binds more than a new entry has. -/
theorem value_of_unregistered (linked : ∀ id, (state.registry id).Linked)
    (missing : (state.registry id).isRegistered service = false)
    (member : key ∈ invocationKeys) :
    Dict.get? key ((state.perform command).boundKeys (.service id service)) =
      Dict.get? key (state.boundKeys (.service id service)) := by
  have other := invocation_key_is_not_service member
  cases kind : command.editsKeys with
  | false =>
      have grows : Grows KeepsKeys state (state.perform command) :=
        (state.perform_grows command).mono fun _ _ makes => makes.keeps_keys kind
      have kept := (grows id).service_keys (linked id) service
      rw [← get?_service_keys other, ← get?_service_keys other]
      exact congrArg (Dict.get? key) kept
  | true =>
      cases command with
      | build blueprint draw =>
          have only := build_only_builds linked blueprint draw
          rw [← get?_service_keys other, ← get?_service_keys other]
          by_cases own : id = blueprint.registry ∧ service = blueprint.settings.service
          · obtain ⟨rfl, rfl⟩ := own
            exact only.own_keys key (invocation_key_is_not_rate member)
          · exact congrArg (Dict.get? key) (only.other_keys id service own)
      | appendKeys logger pairs =>
          have only := state.modify_keys_only_edits logger (.append pairs)
          exact congrArg (Dict.get? key) (only.still_unregistered missing)
      | removeKeys logger keys =>
          have only := state.modify_keys_only_edits logger (.remove keys)
          exact congrArg (Dict.get? key) (only.still_unregistered missing)
      | clearKeys logger =>
          have only := state.modify_keys_only_edits logger .clear
          exact congrArg (Dict.get? key) (only.still_unregistered missing)
      | structureKeys logger keep pairs =>
          have appended := fun start : State =>
            start.modify_keys_only_edits logger (.append pairs)
          cases keep with
          | true => exact congrArg (Dict.get? key) ((appended state).still_unregistered missing)
          | false =>
              have only := (state.modify_keys_only_edits logger .clear).trans (appended _)
              exact congrArg (Dict.get? key) (only.still_unregistered missing)
      | injectInvocation logger invocation =>
          have only := state.inject_invocation_only_edits logger invocation
          exact congrArg (Dict.get? key) (only.still_unregistered missing)
      | evaluate logger eventSite outcomeSite invocation payload =>
          have only := state.evaluate_only_edits logger eventSite outcomeSite invocation payload
          exact congrArg (Dict.get? key) (only.still_unregistered missing)
      | register | setLevel | setServiceLevel | setPropagate | setHandlers | addHandler | deliver
      | dispatch | openStream | addFormatter | report | log | logException | logIncoming
      | copyConfiguration => cases kind

/-- What tells of invocations stays as it is while the service is not invoked. -/
theorem value_unless_invoked (linked : ∀ id, (state.registry id).Linked)
    (leaves : command.LeavesInvocations) (other : command.invoked? id service = none)
    (member : key ∈ invocationKeys) :
    Dict.get? key ((state.perform command).boundKeys (.service id service)) =
      Dict.get? key (state.boundKeys (.service id service)) := by
  cases known : (state.registry id).isRegistered service with
  | true =>
      have has : state.HasService id service := ⟨linked id, known⟩
      rw [has.get?_after, leaves.last_word other member]
      rfl
  | false => exact value_of_unregistered linked known member

theorem value_of_invoked (has : state.HasService id service)
    (invoked : command.invoked? id service = some invocation) (member : key ∈ invocationKeys) :
    Dict.get? key ((state.perform command).boundKeys (.service id service)) =
      (Dict.lastValue? key (invocation.keys state.coldStart)).bind boundAs := by
  have listed : Dict.keys (invocation.keys state.coldStart) = invocationKeys := rfl
  obtain ⟨value, found⟩ : ∃ value,
      Dict.lastValue? key (invocation.keys state.coldStart) = some value := by
    rw [← Option.ne_none_iff_exists', Ne, Dict.last_value_eq_none_iff, listed]
    exact not_not.mpr member
  rw [has.get?_after, Command.last_word_of_invoked invoked member, found]
  rfl

/-! ## Runs -/

theorem value_unless_invoked_in_run (linked : ∀ id, (state.registry id).Linked)
    (leave : ∀ command ∈ commands, command.LeavesInvocations)
    (others : ∀ command ∈ commands, command.invoked? id service = none)
    (member : key ∈ invocationKeys) :
    Dict.get? key ((run state commands).boundKeys (.service id service)) =
      Dict.get? key (state.boundKeys (.service id service)) := by
  induction commands generalizing state with
  | nil => rfl
  | cons command rest ih =>
      have first := value_unless_invoked linked (leave command List.mem_cons_self)
        (others command List.mem_cons_self) member
      have later := ih (fun id => perform_linked (linked id) command)
        (fun other within => leave other (List.mem_cons_of_mem _ within))
        (fun other within => others other (List.mem_cons_of_mem _ within))
      exact later.trans first

/-- A process is cold until some service of it is invoked. -/
theorem cold_start_of_run (linked : ∀ id, (state.registry id).Linked) (commands : List Command) :
    (run state commands).coldStart =
      (state.coldStart && !commands.any Command.servesInvocation) := by
  have hasRoot : state.HasService 0 rootName := ⟨linked 0, rfl⟩
  exact (run_does (fun command _ => every_command_does command) state hasRoot).2

end Service

/-- From a cold process in which nothing is bound of invocations, whatever is built, logged,
dispatched, copied or bound under other keys in between: a service that was invoked shows its last
invocation, and the trace only of that one. It is told that it starts cold just if no service of
the process was invoked before that. A service that was not invoked shows nothing of those of
others. -/
theorem services_show_their_last_invocation (state : State) (reachable : state.Reachable)
    (cold : state.coldStart = true)
    (unbound : ∀ id service, ∀ key ∈ invocationKeys,
      Dict.get? key (state.boundKeys (.service id service)) = none)
    (commands : List Command) (leave : ∀ command ∈ commands, command.LeavesInvocations)
    (registered : state.InvokesRegistered commands) (id : Nat) (service : String) :
    let bound := (run state commands).boundKeys (.service id service)
    (∀ earlier command later invocation, commands = earlier ++ command :: later →
      command.invoked? id service = some invocation →
      (∀ other ∈ later, other.invoked? id service = none) →
      ∃ first, ShowsInvocation bound invocation first ∧
        (first = true ↔
          ∀ other ∈ earlier, ∀ otherId otherService,
            other.invoked? otherId otherService = none)) ∧
      ((∀ command ∈ commands, command.invoked? id service = none) →
        ∀ key ∈ invocationKeys, Dict.get? key bound = none) := by
  intro bound
  have linked := reachable_linked reachable
  constructor
  · intro earlier command later invocation split invoked others
    subst split
    obtain ⟨logger, invoker, rfl, rfl⟩ := Command.invoker_of_invoked invoked
    have known := registered.at_split logger invoker
    have linkedThen : ∀ id, ((run state earlier).registry id).Linked :=
      fun id => run_linked (linked id) earlier
    have has : (run state earlier).HasService logger.registry logger.service :=
      ⟨linkedThen _, known⟩
    refine ⟨(run state earlier).coldStart, shows_invocation_of_values ?_, ?_⟩
    · intro key member
      have kept := value_unless_invoked_in_run (fun id => perform_linked (linkedThen id) command)
        (fun other within => leave other (by simp [within])) others member
      change Dict.get? key ((run state (earlier ++ command :: later)).boundKeys _) = _
      rw [run_append]
      exact kept.trans (value_of_invoked has invoked member)
    · rw [cold_start_of_run linked, cold, Bool.true_and, Bool.not_eq_true', List.any_eq_false]
      simp only [Bool.not_eq_true, Command.serves_invocation_iff]
  · intro others key member
    exact (value_unless_invoked_in_run linked leave others member).trans
      (unbound id service key member)

/-- The worker of `pay` is invoked first, with a trace, then the `orders` of another registry, then
`pay` again without a trace. The trace is gone from `pay`, and `audit` shows nothing of all that. -/
theorem the_trace_of_an_earlier_invocation_is_gone :
    let settings : Settings := ⟨"pay", .info, .zero, false⟩
    let pay : Blueprint := ⟨0, settings, none, none⟩
    let worker : Blueprint := ⟨0, settings, some "worker", none⟩
    let orders : Blueprint := ⟨1, ⟨"orders", .info, .zero, false⟩, none, none⟩
    let traced : Invocation := ⟨"r-1", "arn:pay", "pay", 128, some "Root=1"⟩
    let foreign : Invocation := ⟨"r-2", "arn:orders", "orders", 256, some "Root=2"⟩
    let plain : Invocation := ⟨"r-3", "arn:pay", "pay", 128, none⟩
    let first : List Command := [.build worker .least, .injectInvocation worker.logger traced]
    let commands := first ++ [.build orders .least, .injectInvocation orders.logger foreign,
      .build pay .least, .injectInvocation pay.logger plain, .register 0 "audit"]
    let bound := fun performed id service => (run .initial performed).boundKeys (.service id service)
    State.initial.InvokesRegistered commands ∧
      ShowsInvocation (bound first 0 "pay") traced true ∧
      ShowsInvocation (bound commands 0 "pay") plain false ∧
      ShowsInvocation (bound commands 1 "orders") foreign false ∧
      Dict.get? "xray_trace_id" (bound commands 0 "pay") = none ∧
      Dict.get? "function_arn" (bound commands 0 "audit") = none := by
  intro settings pay worker orders traced foreign plain first commands bound
  have reachable : State.initial.Reachable := ⟨.initial, [], .inl rfl, rfl⟩
  have unbound : ∀ id service, ∀ key ∈ invocationKeys,
      Dict.get? key (State.initial.boundKeys (.service id service)) = none := by
    intro id service key member
    have other := invocation_key_is_not_service member
    have fresh : State.initial.serviceKeys id service = BoundKeys.initial service := by
      by_cases atRoot : service = rootName
      · rw [atRoot]
        rfl
      · simp [serviceKeys, State.registry, State.initial, Registry.get?, Registry.empty, Dict.get?,
          atRoot]
    rw [← get?_service_keys other, fresh]
    simp [BoundKeys.initial, Dict.get?, Ne.symm other]
  have leave : ∀ command ∈ commands, command.LeavesInvocations := by
    simp [commands, first, Command.LeavesInvocations]
  have invokes : State.initial.InvokesRegistered commands := by
    simp only [commands, first, List.cons_append, List.nil_append, InvokesRegistered]
    decide +kernel
  have invokesFirst : State.initial.InvokesRegistered first := by
    simp only [first, InvokesRegistered]
    decide +kernel
  have told := services_show_their_last_invocation .initial reachable rfl unbound commands leave
    invokes
  have toldFirst := services_show_their_last_invocation .initial reachable rfl unbound first
    (fun command member => leave command (List.mem_append_left _ member)) invokesFirst
  -- after the worker no other service is the first one
  have notFirst : ∀ earlier : List Command, .injectInvocation worker.logger traced ∈ earlier →
      ∀ flag, (flag = true ↔ ∀ other ∈ earlier, ∀ id service, other.invoked? id service = none) →
      flag = false := by
    intro earlier member flag decided
    rw [← Bool.not_eq_true, decided]
    intro nobody
    cases nobody _ member 0 "pay"
  obtain ⟨flag, shows, decided⟩ := (toldFirst 0 "pay").1 [.build worker .least]
    (.injectInvocation worker.logger traced) [] traced rfl rfl (List.forall_mem_nil _)
  have isFirst : flag = true := decided.mpr (by simp [Command.invoked?])
  subst isFirst
  obtain ⟨payFlag, payShows, payDecided⟩ := (told 0 "pay").1
    (first ++ [.build orders .least, .injectInvocation orders.logger foreign, .build pay .least])
    (.injectInvocation pay.logger plain) [.register 0 "audit"] plain rfl rfl (by decide)
  rw [notFirst _ (by simp [first]) payFlag payDecided] at payShows
  obtain ⟨ordersFlag, ordersShows, ordersDecided⟩ := (told 1 "orders").1
    (first ++ [.build orders .least]) (.injectInvocation orders.logger foreign)
    [.build pay .least, .injectInvocation pay.logger plain, .register 0 "audit"] foreign rfl rfl
    (by decide)
  rw [notFirst _ (by simp [first]) ordersFlag ordersDecided] at ordersShows
  exact ⟨invokes, shows, payShows, ordersShows, payShows.traceId,
    (told 0 "audit").2 (by decide) "function_arn" (by decide)⟩

end State

end FunctionKit.Logging
