import Mathlib.Algebra.Group.Nat.Even
import FunctionKit.Proofs.TraceEvents

/-!
# Names of targets

A target is read from the left, and every pair of colons that is met becomes a dot. So a target
splits at a pair where no odd colon stands before it, a name has no pair left, and to name a name
changes nothing. The library's own targets are those with a pair behind its name; with a dot there
they are not its own, although the loggers are.
-/

namespace FunctionKit.Logging

set_option autoImplicit false

/-- How many colons a text ends with. -/
def colonsAtEnd (text : List Char) : Nat :=
  (text.reverse.takeWhile (· = ':')).length

/-- Events of the target change nothing, wherever and whenever they are dispatched. -/
def PassedOver (target : String) : Prop :=
  ∀ (state : State) (id : Nat) (event : TraceEvent) (time : Timestamp),
    event.target = target → state.dispatch id event time = state

/-! ## Pairs of colons -/

theorem dotted_pair (rest : List Char) : dotted (':' :: ':' :: rest) = '.' :: dotted rest := by
  rw [dotted]

/-- A colon that has no second one behind it, or any other character, stays. -/
theorem dotted_cons {c : Char} {rest : List Char} (single : c = ':' → rest.head? ≠ some ':') :
    dotted (c :: rest) = c :: dotted rest := by
  rw [dotted]
  rintro after rfl rfl
  exact single rfl rfl

/-- A character in front counts only if it is a colon and nothing but colons follows. -/
theorem colons_at_end_cons (c : Char) (rest : List Char) :
    colonsAtEnd (c :: rest) =
      if c = ':' ∧ colonsAtEnd rest = rest.length then rest.length + 1 else colonsAtEnd rest := by
  unfold colonsAtEnd
  rw [List.reverse_cons, List.takeWhile_append, List.length_reverse]
  by_cases all : (rest.reverse.takeWhile (· = ':')).length = rest.length
  · by_cases colon : c = ':' <;> simp [all, colon]
  · simp [all]

theorem colons_at_end_le (text : List Char) : colonsAtEnd text ≤ text.length := by
  have taken := (List.takeWhile_sublist (· = ':') (l := text.reverse)).length_le
  rwa [List.length_reverse] at taken

theorem even_colons_of_pair (later : List Char) :
    Even (colonsAtEnd (':' :: ':' :: later)) ↔ Even (colonsAtEnd later) := by
  rw [colons_at_end_cons, colons_at_end_cons]
  by_cases all : colonsAtEnd later = later.length
  · simp [all, Nat.even_add_one]
  · have fewer := colons_at_end_le later
    have further : colonsAtEnd later ≠ later.length + 1 := by omega
    simp [all, further]

theorem colons_at_end_of_single {c d : Char} {after : List Char} (single : c = ':' → d ≠ ':') :
    colonsAtEnd (c :: d :: after) = colonsAtEnd (d :: after) := by
  rw [colons_at_end_cons c]
  apply if_neg
  rintro ⟨colon, all⟩
  rw [colons_at_end_cons, if_neg fun both => single colon both.1] at all
  have fewer := colons_at_end_le after
  rw [List.length_cons] at all
  omega

theorem dotted_append_pair (start rest : List Char) :
    dotted (start ++ ':' :: ':' :: rest) = dotted start ++ '.' :: dotted rest ↔
      Even (colonsAtEnd start) := by
  fun_induction dotted start with
  | case1 later ih =>
      rw [even_colons_of_pair, ← ih, List.cons_append, List.cons_append, dotted_pair,
        List.cons_append, List.cons_inj_right]
  | case2 c later single ih =>
      have lone : c = ':' → later.head? ≠ some ':' := by
        rintro rfl colon
        obtain ⟨after, rfl⟩ := List.head?_eq_some_iff.mp colon
        exact single after rfl rfl
      cases later with
      | nil =>
          by_cases colon : c = ':'
          · subst colon
            simp [colonsAtEnd, dotted_pair, dotted]
          · rw [List.cons_append, dotted_cons (fun same => absurd same colon)]
            simp [colonsAtEnd, colon, dotted_pair, dotted]
      | cons d after =>
          have apart : c = ':' → d ≠ ':' := fun colon same => lone colon (congrArg some same)
          rw [colons_at_end_of_single apart, ← ih, List.cons_append,
            dotted_cons (by simpa using lone), List.cons_append, List.cons_append,
            List.cons_inj_right]
  | case3 => simp [colonsAtEnd, dotted]

theorem head_of_dotted {text : List Char} (colon : (dotted text).head? = some ':') :
    text.head? = some ':' := by
  fun_induction dotted text with
  | case1 later _ => cases colon
  | case2 c later _ _ => exact colon
  | case3 => exact colon

/-- No pair of colons is left, since no new colons come and a lone one stays alone. -/
theorem dotted_has_no_pair (text : List Char) : ¬[':', ':'] <:+: dotted text := by
  fun_induction dotted text with
  | case1 later ih =>
      rw [List.infix_cons_iff, List.cons_prefix_cons]
      rintro (⟨dot, _⟩ | within)
      · exact absurd dot (by decide)
      · exact ih within
  | case2 c later single ih =>
      rw [List.infix_cons_iff, List.cons_prefix_cons]
      rintro (⟨rfl, ⟨after, split⟩⟩ | within)
      · have named : (dotted later).head? = some ':' := by
          rw [← split]
          rfl
        obtain ⟨after, rfl⟩ := List.head?_eq_some_iff.mp (head_of_dotted named)
        exact single after rfl rfl
      · exact ih within
  | case3 => simp

theorem dotted_of_no_pair {text : List Char} (none : ¬[':', ':'] <:+: text) : dotted text = text := by
  fun_induction dotted text with
  | case1 later _ => exact absurd (List.prefix_append [':', ':'] later).isInfix none
  | case2 c later single ih =>
      rw [ih fun within => none (within.trans (List.suffix_cons c later).isInfix)]
  | case3 => rfl

/-- A name without dots has come of no pair. -/
theorem dotted_of_no_dot {text : List Char} (none : '.' ∉ dotted text) : dotted text = text := by
  fun_induction dotted text with
  | case1 later _ => exact absurd List.mem_cons_self none
  | case2 c later single ih => rw [ih fun member => none (List.mem_cons_of_mem c member)]
  | case3 => rfl

/-! ## The library's own names -/

/-- A word without dots and colons stands in front of a dot of a name just if it stands in front of
a dot or a pair of the target. -/
theorem dotted_starts_with_word {word : List Char} (plain : ∀ c ∈ word, c ≠ '.' ∧ c ≠ ':')
    (text : List Char) :
    word ++ ['.'] <+: dotted text ↔ word ++ ['.'] <+: text ∨ word ++ [':', ':'] <+: text := by
  fun_induction dotted text generalizing word with
  | case1 later _ =>
      cases word with
      | nil => simp
      | cons first rest =>
          obtain ⟨noDot, noColon⟩ := plain first List.mem_cons_self
          simp [noDot, noColon]
  | case2 c later single ih =>
      cases word with
      | nil =>
          have alone : ¬(':' = c ∧ [':'] <+: later) := by
            rintro ⟨colon, after, split⟩
            exact single after colon.symm split.symm
          simpa using fun colon starts => absurd ⟨colon, starts⟩ alone
      | cons first rest =>
          have further := ih fun c member => plain c (List.mem_cons_of_mem first member)
          simp only [List.cons_append, List.cons_prefix_cons, further, and_or_left]
  | case3 => simp

theorem dotted_eq_word_iff {word : List Char} (plain : ∀ c ∈ word, c ≠ '.' ∧ c ≠ ':')
    (text : List Char) : dotted text = word ↔ text = word := by
  constructor
  · rintro rfl
    exact (dotted_of_no_dot fun dot => (plain '.' dot).1 rfl).symm
  · rintro rfl
    exact dotted_of_no_pair fun pair => (plain ':' (pair.subset List.mem_cons_self)).2 rfl

theorem to_list_name_of_target (target : String) :
    (nameOfTarget target).toList = dotted target.toList := by
  rw [nameOfTarget, String.toList_ofList]

/-- The names of the library are those of its own targets, and of targets below it with a dot. -/
theorem is_package_name_of_target (target : String) :
    isPackageName (nameOfTarget target) = true ↔
      TraceEvent.isOwn target = true ∨ IsAbove packageName target := by
  have plain : ∀ c ∈ packageName.toList, c ≠ '.' ∧ c ≠ ':' := by simp [packageName]
  have same : nameOfTarget target = packageName ↔ target = packageName := by
    rw [← String.toList_inj, ← String.toList_inj, to_list_name_of_target]
    exact dotted_eq_word_iff plain target.toList
  have below : isBelow (nameOfTarget target) packageName = true ↔
      IsAbove packageName target ∨
        packageName.toList ++ [':', ':'] <+: target.toList := by
    rw [is_below_iff, is_above_iff_starts, is_above_iff_starts, to_list_name_of_target]
    exact dotted_starts_with_word plain target.toList
  unfold isPackageName TraceEvent.isOwn startsWith
  rw [Bool.or_eq_true, Bool.or_eq_true, decide_eq_true_eq, decide_eq_true_eq, same, below,
    List.isPrefixOf_iff_prefix, String.toList_append, or_assoc, or_comm (a := IsAbove _ _)]
  rfl

/-- With a dot instead of a pair the target is not the library's own. -/
example : isPackageName (nameOfTarget (packageName ++ ".layer")) = true ∧
    TraceEvent.isOwn (packageName ++ ".layer") = false := by
  decide +kernel

/-! ## Targets that are passed over -/

theorem name_of_target_eq_root_iff (target : String) :
    nameOfTarget target = rootName ↔ target = rootName := by
  rw [← String.toList_inj, ← String.toList_inj, to_list_name_of_target]
  exact dotted_eq_word_iff (List.forall_mem_nil _) target.toList

/-- An event of a target that is not the library's own registers the name of the target. The name
of the root is always there, but then a handler of the root writes the event. -/
theorem passed_over_iff (target : String) :
    PassedOver target ↔ TraceEvent.isOwn target = true := by
  constructor
  · intro passed
    by_contra notOwn
    have foreign : ¬TraceEvent.Own target :=
      fun own => notOwn ((TraceEvent.is_own_iff target).mpr own)
    let event : TraceEvent := ⟨target, .error, [], none, none, none⟩
    have linked : (State.initial.registry 0).Linked := Registry.empty_linked
    have registers := (State.register_only_registers linked (nameOfTarget target)).registered
    have writes := (State.initial.register 0 (nameOfTarget target)).deliver_only_writes .event 0
      (nameOfTarget target) (event.record ⟨0, 0⟩)
    have delivered : State.initial.dispatch 0 event ⟨0, 0⟩ = _ :=
      State.dispatch_eq_deliver .initial 0 ⟨0, 0⟩ foreign
    have unchanged := delivered.symm.trans (passed .initial 0 event ⟨0, 0⟩ rfl)
    have atRoot : target = rootName := by
      rw [← writes.registry, unchanged] at registers
      by_contra named
      rw [← name_of_target_eq_root_iff] at named
      simp [Registry.isRegistered, State.registry, State.initial, Registry.get?, Registry.empty,
        Dict.get?, named] at registers
    subst atRoot
    let written : Handler := ⟨some .standardOutput, none, .notSet⟩
    let heard := State.initial.perform (.setHandlers 0 rootName [written])
    have silent := congrArg State.journal (passed heard 0 event ⟨0, 0⟩ rfl)
    exact absurd silent (by decide)
  · rintro own state id event time rfl
    exact if_pos own

/-- A target splits at a pair of colons just if an even number of colons stands right before it. No
pair is left in a name, so naming a name changes nothing. Events of a target without dots are passed
over just if the name is one of the library. With dots the two differ in one direction only: what is
passed over has a name of the library, and so have the targets that lie below it as names do. -/
theorem targets_become_names (start rest target : String) :
    (nameOfTarget (start ++ "::" ++ rest) = nameOfTarget start ++ "." ++ nameOfTarget rest ↔
        Even (colonsAtEnd start.toList)) ∧
      ¬[':', ':'] <:+: (nameOfTarget target).toList ∧
      nameOfTarget (nameOfTarget target) = nameOfTarget target ∧
      ('.' ∉ target.toList →
        (PassedOver target ↔ isPackageName (nameOfTarget target) = true)) ∧
      (isPackageName (nameOfTarget target) = true ↔
        PassedOver target ∨ IsAbove packageName target) := by
  have noPair := dotted_has_no_pair target.toList
  have package := is_package_name_of_target target
  rw [← passed_over_iff] at package
  refine ⟨?_, by rwa [to_list_name_of_target], ?_, ?_, package⟩
  · rw [← dotted_append_pair start.toList rest.toList, ← String.toList_inj]
    have pair : (start ++ "::" ++ rest).toList = start.toList ++ ':' :: ':' :: rest.toList := by
      simp [String.toList_append]
    have dot : (nameOfTarget start ++ "." ++ nameOfTarget rest).toList =
        dotted start.toList ++ '.' :: dotted rest.toList := by
      simp [String.toList_append, to_list_name_of_target]
    rw [to_list_name_of_target, pair, dot]
  · rw [← String.toList_inj, to_list_name_of_target, to_list_name_of_target]
    exact dotted_of_no_pair noPair
  · intro noDot
    rw [package]
    refine ⟨.inl, fun either => either.resolve_right ?_⟩
    rintro ⟨below, rfl⟩
    exact noDot (by simp [String.toList_append])

end FunctionKit.Logging
