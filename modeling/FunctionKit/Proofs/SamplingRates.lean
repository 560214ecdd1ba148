import FunctionKit.Proofs.Handovers
import FunctionKit.Proofs.LastEdits
import FunctionKit.Proofs.Services

/-!
# The bound sample rate

A build binds the sample rate of its service when the rate is above zero. A build with the rate zero
leaves the key alone, so what is bound after a build is the rate of the latest one above zero, be it
of the service or of a child.
-/

namespace FunctionKit

set_option autoImplicit false

/-! ## Probabilities -/

namespace Binary64

variable {rate : Binary64}

theorem not_nan_of_probability (probable : Logging.Settings.isProbability rate = true) :
    rate.isNaN = false ∧ 0 ≤ rate.orderKey ∧ rate.orderKey ≤ one.orderKey := by
  have zeroKey : zero.orderKey = 0 := by decide
  obtain ⟨aboveZero, belowOne⟩ := Bool.and_eq_true_iff.mp probable
  unfold le at aboveZero belowOne
  simp only [Bool.and_eq_true, Bool.not_eq_true', decide_eq_true_eq, zeroKey] at aboveZero belowOne
  exact ⟨aboveZero.1.2, aboveZero.2, belowOne.2⟩

/-- A probability is above zero unless it is one of the two zeros. -/
theorem above_zero_iff (probable : Logging.Settings.isProbability rate = true) :
    zero.lt rate = true ↔ rate.sameNumber zero = false := by
  have zeroKey : zero.orderKey = 0 := by decide
  have zeroNumber : zero.isNaN = false := by decide
  obtain ⟨number, notNegative, _⟩ := not_nan_of_probability probable
  unfold lt sameNumber
  rw [zeroKey, zeroNumber, number]
  simp only [Bool.not_false, Bool.true_and, decide_eq_true_eq, decide_eq_false_iff_not]
  omega

theorem finite_of_probability (probable : Logging.Settings.isProbability rate = true) :
    rate.isFinite = true := by
  obtain ⟨_, notNegative, belowOne⟩ := not_nan_of_probability probable
  have oneKey : one.orderKey = 0x3FF * 2 ^ 52 := by decide
  have bound : infinityBody = 0x7FF * 2 ^ 52 := by decide
  have body : rate.body < infinityBody := by
    unfold orderKey at notNegative belowOne oneKey
    rw [oneKey] at belowOne
    cases sign : rate.isNegative with
    | true =>
        rw [sign, if_pos rfl, Int.ofNat_eq_natCast] at notNegative
        omega
    | false =>
        rw [sign, if_neg Bool.false_ne_true, Int.ofNat_eq_natCast] at belowOne
        omega
  exact decide_eq_true body

end Binary64

namespace Logging

open FunctionKit.ConfigRule

def samplingRateKey : String := "sampling_rate"

/-- The rate that a command binds for a service. -/
def Command.sampleRate? (id : Nat) (service : String) : Command → Option Binary64
  | .build blueprint _ =>
    if blueprint.registry = id ∧ blueprint.settings.service = service ∧ blueprint.isSampling then
      some blueprint.settings.sampleRate
    else none
  | _ => none

/-- The rate that was bound last for a service. -/
def latestRate? (id : Nat) (service : String) (commands : List Command) : Option Binary64 :=
  (commands.filterMap (Command.sampleRate? id service)).getLast?

/-- Unless it builds, a command says nothing of the sample rate. -/
def Command.LeavesRate (id : Nat) (service : String) : Command → Prop
  | .build _ _ => True
  | command => ∀ cold, KeyEdit.lastWord? samplingRateKey (command.keyEdits cold id service) = none

section Words

variable {id : Nat} {service : String}

theorem Blueprint.last_word_of_build (blueprint : Blueprint) (draw : Draw) (cold : Bool) :
    KeyEdit.lastWord? samplingRateKey ((Command.build blueprint draw).keyEdits cold id service) =
      ((Command.build blueprint draw).sampleRate? id service).map fun rate =>
        boundAs (.ofBinary64 rate) := by
  unfold Command.keyEdits Command.sampleRate? Logger.edits
  by_cases sampling : blueprint.isSampling = true
  · by_cases own : blueprint.registry = id ∧ blueprint.settings.service = service
    · simp [sampling, own, Blueprint.logger, KeyEdit.last_word_single, KeyEdit.word?,
        Dict.lastValue?, samplingRateKey]
    · simp [sampling, own, Blueprint.logger, KeyEdit.lastWord?]
  · simp [sampling, KeyEdit.lastWord?]

theorem Command.LeavesRate.last_word {command : Command}
    (leaves : command.LeavesRate id service) (cold : Bool) :
    KeyEdit.lastWord? samplingRateKey (command.keyEdits cold id service) =
      (command.sampleRate? id service).map fun rate => boundAs (.ofBinary64 rate) := by
  cases command with
  | build blueprint draw => exact blueprint.last_word_of_build draw cold
  | register | setLevel | setPropagate | setHandlers | addHandler | deliver | dispatch | openStream
  | addFormatter | report | log | logException | logIncoming | appendKeys | removeKeys | clearKeys
  | structureKeys | injectInvocation | setServiceLevel | copyConfiguration | evaluate =>
      exact leaves cold

theorem latest_rate_cons (command : Command) (rest : List Command) :
    latestRate? id service (command :: rest) =
      (latestRate? id service rest).or (command.sampleRate? id service) := by
  unfold latestRate?
  rw [List.filterMap_cons]
  cases command.sampleRate? id service with
  | none => rw [Option.or_none]
  | some rate =>
      rw [List.getLast?_cons]
      cases (rest.filterMap (Command.sampleRate? id service)).getLast? <;> rfl

/-- Of a run in which only builds do so, the latest rate has the last word. -/
theorem last_word_of_rates {commands : List Command}
    (leave : ∀ command ∈ commands, command.LeavesRate id service) (cold : Bool) :
    KeyEdit.lastWord? samplingRateKey (keyEditsOfRun id service cold commands) =
      (latestRate? id service commands).map fun rate => boundAs (.ofBinary64 rate) := by
  induction commands generalizing cold with
  | nil => rfl
  | cons command rest ih =>
      have first := (leave command List.mem_cons_self).last_word cold
      have later := ih (fun other member => leave other (List.mem_cons_of_mem _ member))
        (cold && !command.servesInvocation)
      rw [keyEditsOfRun, KeyEdit.last_word_append, first, later, latest_rate_cons, Option.map_or]

end Words

namespace State

/-! ## Builds -/

section Build

variable {state : State}

theorem register_keeps_value (linked : ∀ id, (state.registry id).Linked) (id : Nat)
    (service : String) {key : String} (other : key ≠ BoundKeys.serviceKey) :
    Dict.get? key ((state.register id service).boundKeys (.service id service)) =
      Dict.get? key (state.boundKeys (.service id service)) := by
  simp only [boundKeys]
  rw [registry_register]
  cases known : (state.registry id).isRegistered service with
  | true => rw [Registry.register_registered _ _ known]
  | false =>
      have nobody : (state.registry id).get? service = none := by
        simpa [Registry.isRegistered] using known
      rw [Registry.get?_new (linked id) known, nobody]
      simp [Entry.fresh, BoundKeys.initial, Dict.get?, Ne.symm other]

theorem rate_after_build (linked : ∀ id, (state.registry id).Linked) (blueprint : Blueprint)
    (draw : Draw) :
    Dict.get? samplingRateKey (blueprint.logger.boundKeys (state.build blueprint draw)) =
      if blueprint.isSampling then boundAs (.ofBinary64 blueprint.settings.sampleRate)
      else Dict.get? samplingRateKey (blueprint.logger.boundKeys state) := by
  let id := blueprint.registry
  let service := blueprint.settings.service
  have registered : (state.register id service).HasService id service := by
    refine ⟨?_, ?_⟩
    · rw [registry_register]
      exact Registry.register_linked (linked id) service
    · rw [registry_register]
      exact Registry.register_registers (linked id) service
  have hasPrepared : (state.prepare blueprint).HasService id service :=
    ⟨prepare_linked (linked id), prepare_registers (linked id)⟩
  have kept : Dict.get? samplingRateKey
        ((state.register id service).boundKeys (.service id service)) =
      Dict.get? samplingRateKey (state.boundKeys (.service id service)) :=
    register_keeps_value linked id service (by decide)
  change Dict.get? samplingRateKey ((state.build blueprint draw).boundKeys (.service id service)) = _
  rw [hasPrepared.bound_keys_of_build draw, prepare]
  by_cases sampling : blueprint.isSampling = true
  · rw [if_pos sampling, if_pos sampling]
    have appended := registered.bound_keys_of_edit blueprint.logger
      (.append [(samplingRateKey, .ofBinary64 blueprint.settings.sampleRate)])
    rw [Logger.edits, if_pos ⟨rfl, rfl⟩] at appended
    have value := congrArg (Dict.get? samplingRateKey) appended
    rw [KeyEdit.get?_apply_all, KeyEdit.last_word_single] at value
    exact value
  · rw [if_neg sampling, if_neg sampling]
    exact kept

end Build

/-- Right after a build with a rate above zero the key is bound to this rate, and after a build with
the rate zero to what it was bound to before. So it tells whether the latest build samples unless one
with the rate zero comes while the key is bound. If nothing but builds says anything of the key since
some moment, that is the rate above zero that was built with last, whether for the service or for a
child. -/
theorem rates_are_bound_until_a_later_one (state : State) (reachable : state.Reachable)
    (blueprint : Blueprint) (draw : Draw)
    (probable : Settings.isProbability blueprint.settings.sampleRate = true) :
    let id := blueprint.registry
    let service := blueprint.settings.service
    let rate := blueprint.settings.sampleRate
    let before := Dict.get? samplingRateKey (blueprint.logger.boundKeys state)
    let after :=
      Dict.get? samplingRateKey (blueprint.logger.boundKeys (state.build blueprint draw))
    (rate.sameNumber .zero = false → after = some (.number (.fractional rate))) ∧
      (rate.sameNumber .zero = true → after = before) ∧
      ((after.isSome = true ↔ rate.sameNumber .zero = false) ↔
        (rate.sameNumber .zero = false ∨ before = none)) ∧
      ∀ origin commands, origin.HasService id service → state = run origin commands →
        (∀ command ∈ commands, command.LeavesRate id service) →
        before =
          ((latestRate? id service commands).map fun rate => boundAs (.ofBinary64 rate)).getD
            (Dict.get? samplingRateKey (blueprint.logger.boundKeys origin)) := by
  intro id service rate before after
  have built : after = if blueprint.isSampling then boundAs (.ofBinary64 rate) else before :=
    rate_after_build (reachable_linked reachable) blueprint draw
  have sampling : blueprint.isSampling = true ↔ rate.sameNumber .zero = false :=
    Binary64.above_zero_iff probable
  have value : boundAs (.ofBinary64 rate) = some (.number (.fractional rate)) := by
    rw [Json.ofBinary64, if_pos (Binary64.finite_of_probability probable)]
    rfl
  have samples : rate.sameNumber .zero = false → after = some (.number (.fractional rate)) := by
    intro positive
    rw [built, if_pos (sampling.mpr positive), value]
  have stays : rate.sameNumber .zero = true → after = before := by
    intro zero
    have off : ¬blueprint.isSampling = true := by
      rw [sampling, zero]
      exact Bool.noConfusion
    rw [built, if_neg off]
  refine ⟨samples, stays, ?_, ?_⟩
  · cases zero : rate.sameNumber .zero with
    | false => simp [samples zero]
    | true => simp [stays zero]
  · intro origin commands has same leave
    have bound := has.get?_after_run commands samplingRateKey
    rw [last_word_of_rates leave, ← same] at bound
    exact bound

/-- The child of `pay` is built with the rate one half, `orders` with one. A rebuild of `pay` with the
rate zero shows the half, one with the rate one shows that. -/
theorem a_rate_of_a_child_is_bound_after_a_rebuild :
    let half : Binary64 := .ofBody false (0x3FE * Nat.pow 2 52)
    let settings := fun (service : String) (rate : Binary64) =>
      (⟨service, .info, rate, false⟩ : Settings)
    let pay := fun (rate : Binary64) => (⟨0, settings "pay" rate, none, none⟩ : Blueprint)
    let origin := run .initial [.build (pay .one) .least]
    let commands : List Command := [.build ⟨0, settings "pay" half, some "worker", none⟩ .least,
      .build ⟨0, settings "orders" .one, none, none⟩ .least,
      .injectInvocation (pay .one).logger ⟨"r", "arn", "f", 128, none⟩]
    let state := run origin commands
    state.Reachable ∧ Settings.isProbability (pay .zero).settings.sampleRate = true ∧
      Settings.isProbability (pay .one).settings.sampleRate = true ∧
      Dict.get? samplingRateKey ((pay .zero).logger.boundKeys (state.build (pay .zero) .least)) =
        some (.number (.fractional half)) ∧
      Dict.get? samplingRateKey ((pay .one).logger.boundKeys (state.build (pay .one) .least)) =
        some (.number (.fractional .one)) := by
  intro half settings pay origin commands state
  have runs : run .initial ([.build (pay .one) .least] ++ commands) = state := List.foldl_append
  have reachable : state.Reachable := ⟨.initial, _, .inl rfl, runs.symm⟩
  have originReachable : origin.Reachable := ⟨.initial, _, .inl rfl, rfl⟩
  have zeroProbable : Settings.isProbability (pay .zero).settings.sampleRate = true := by decide
  have oneProbable : Settings.isProbability (pay .one).settings.sampleRate = true := by decide
  have has : origin.HasService 0 "pay" := ⟨reachable_linked originReachable 0, by decide +kernel⟩
  have leave : ∀ command ∈ commands, command.LeavesRate 0 "pay" := by
    intro command member
    simp only [commands, List.mem_cons, List.not_mem_nil, or_false] at member
    rcases member with child | other | injected
    · rw [child]
      exact trivial
    · rw [other]
      exact trivial
    · rw [injected]
      exact fun _ => rfl
  obtain ⟨_, stays, _, earlier⟩ :=
    rates_are_bound_until_a_later_one state reachable (pay .zero) .least zeroProbable
  obtain ⟨samples, _⟩ :=
    rates_are_bound_until_a_later_one state reachable (pay .one) .least oneProbable
  have latest : latestRate? 0 "pay" commands = some half := by decide +kernel
  have before := earlier origin commands has rfl leave
  have shown : boundAs (.ofBinary64 half) = some (.number (.fractional half)) := by
    have finite : half.isFinite = true := by decide +kernel
    rw [Json.ofBinary64, if_pos finite]
    rfl
  refine ⟨reachable, zeroProbable, oneProbable, ?_, samples (by decide +kernel)⟩
  rw [stays (by decide +kernel), before]
  change ((latestRate? 0 "pay" commands).map fun rate => boundAs (.ofBinary64 rate)).getD _ = _
  rw [latest]
  exact shown

/-- The second build of `pay` has the rate zero, and its lines show the rate of the first. -/
theorem a_rebuild_without_sampling_shows_the_earlier_rate :
    let pay := fun (rate : Binary64) =>
      (⟨0, ⟨"pay", .info, rate, false⟩, none, some 0⟩ : Blueprint)
    let state := run .warm [.openStream .reliable, .build (pay .one) .least]
    let rebuilt := pay .zero
    let after := state.build rebuilt .least
    state.Reachable ∧ rebuilt.child = none ∧
      Settings.isProbability rebuilt.settings.sampleRate = true ∧
      rebuilt.settings.sampleRate.sameNumber .zero = true ∧
      Dict.get? samplingRateKey (rebuilt.logger.boundKeys after) =
        some (.number (.fractional .one)) ∧
      (after.logged rebuilt.logger ⟨"app.rs:7", ⟨0, 0⟩⟩ .info "m" []).map Handover.line =
        ["\x7b\"level\":\"INFO\",\"location\":\"app.rs:7\",\"message\":\"m\"," ++
          "\"sampling_rate\":1.0,\"service\":\"pay\"," ++
          "\"timestamp\":\"1970-01-01T00:00:00.000Z\"\x7d"] := by
  intro pay state rebuilt after
  let opened := run .warm [.openStream .reliable]
  have reachable : state.Reachable := ⟨.warm, _, .inr rfl, rfl⟩
  have openedLinked : ∀ id, (opened.registry id).Linked :=
    reachable_linked ⟨.warm, [.openStream .reliable], .inr rfl, rfl⟩
  have first : Dict.get? samplingRateKey (rebuilt.logger.boundKeys state) =
      some (.number (.fractional .one)) :=
    (rate_after_build openedLinked (pay .one) .least).trans (by rfl)
  have second := rate_after_build (reachable_linked reachable) rebuilt .least
  exact ⟨reachable, rfl, by decide, by decide, second.trans first, by decide +kernel⟩

end State

end Logging

end FunctionKit
