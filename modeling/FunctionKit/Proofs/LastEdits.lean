import FunctionKit.Proofs.BoundKeys
import FunctionKit.Proofs.Dictionaries

/-!
# The last edit of a key

An edit says nothing of a key, or that it is unbound, or what it is bound to. What is bound after
some edits is what the last one that says anything of the key says, and what was bound before if
there is none.
-/

namespace FunctionKit.Logging

set_option autoImplicit false

open FunctionKit.ConfigRule

/-- What is bound when a value is asked for. Nothing is for null. -/
def boundAs (value : Json) : Option Json :=
  if value.isNull then none else some value

/-! ## Single edits -/

namespace BoundKeys

theorem get?_bind (bound : Fields) (pair : String × Json) (key : String) :
    Dict.get? key (bind bound pair) =
      if pair.1 = key then boundAs pair.2 else Dict.get? key bound := by
  unfold bind boundAs
  cases pair.2.isNull with
  | true => rw [if_pos rfl, if_pos rfl, Dict.get?_erase]
  | false => simp only [Bool.false_eq_true, if_false, Dict.get?_insert]

theorem get?_append (pairs : List (String × Json)) (bound : Fields) (key : String) :
    Dict.get? key (append pairs bound) =
      ((Dict.lastValue? key pairs).map boundAs).getD (Dict.get? key bound) := by
  induction pairs using List.reverseRecOn with
  | nil => rfl
  | append_singleton earlier last ih =>
      have split : append (earlier ++ [last]) bound = bind (append earlier bound) last :=
        List.foldl_append
      rw [split, get?_bind, Dict.last_value_concat]
      by_cases here : last.1 = key
      · rw [if_pos here, if_pos here]
        rfl
      · rw [if_neg here, if_neg here, ih]

theorem get?_remove (keys : List String) (bound : Fields) (key : String) :
    Dict.get? key (remove keys bound) = if key ∈ keys then none else Dict.get? key bound := by
  induction keys generalizing bound with
  | nil => rfl
  | cons first rest ih =>
      change Dict.get? key (remove rest (Dict.erase first bound)) = _
      rw [ih, Dict.get?_erase]
      by_cases here : first = key
      · simp [here]
      · simp [here, Ne.symm here]

theorem get?_clear (bound : Fields) (key : String) :
    Dict.get? key (clear bound) = if key = serviceKey then Dict.get? key bound else none := by
  unfold clear
  induction bound with
  | nil => exact (ite_self _).symm
  | cons entry rest ih =>
      obtain ⟨name, value⟩ := entry
      by_cases kept : name = serviceKey
      · by_cases here : name = key
        · have asked : key = serviceKey := here.symm.trans kept
          simp [Dict.get?, here, asked]
        · simpa [Dict.get?, kept, here, kept ▸ here] using ih
      · by_cases here : name = key
        · have asked : key ≠ serviceKey := fun same => kept (here.trans same)
          simpa [kept, asked] using ih
        · simpa [Dict.get?, kept, here] using ih

end BoundKeys

/-! ## The last word -/

namespace KeyEdit

/-- What an edit says of a key, if it says anything. -/
def word? (key : String) : KeyEdit → Option (Option Json)
  | .append pairs => (Dict.lastValue? key pairs).map boundAs
  | .remove keys => if key ∈ keys then some none else none
  | .clear => if key = BoundKeys.serviceKey then none else some none

/-- What the last of some edits that says anything of a key says. -/
def lastWord? (key : String) (edits : List KeyEdit) : Option (Option Json) :=
  (edits.filterMap (word? key)).getLast?

theorem get?_apply (edit : KeyEdit) (bound : Fields) (key : String) :
    Dict.get? key (edit.apply bound) = (edit.word? key).getD (Dict.get? key bound) := by
  cases edit with
  | append pairs => exact BoundKeys.get?_append pairs bound key
  | remove keys =>
      rw [apply, BoundKeys.get?_remove]
      by_cases named : key ∈ keys <;> simp [word?, named]
  | clear =>
      rw [apply, BoundKeys.get?_clear]
      by_cases own : key = BoundKeys.serviceKey <;> simp [word?, own]

theorem last_word_append (key : String) (early late : List KeyEdit) :
    lastWord? key (early ++ late) = (lastWord? key late).or (lastWord? key early) := by
  unfold lastWord?
  rw [List.filterMap_append, List.getLast?_append]

theorem last_word_single (key : String) (edit : KeyEdit) :
    lastWord? key [edit] = edit.word? key := by
  unfold lastWord?
  cases said : edit.word? key <;> simp [said]

theorem get?_apply_all (edits : List KeyEdit) (bound : Fields) (key : String) :
    Dict.get? key (applyAll edits bound) = (lastWord? key edits).getD (Dict.get? key bound) := by
  induction edits using List.reverseRecOn with
  | nil => rfl
  | append_singleton earlier last ih =>
      rw [apply_all_append, last_word_append, last_word_single]
      change Dict.get? key (last.apply (applyAll earlier bound)) = _
      rw [get?_apply, ih]
      cases last.word? key <;> rfl

end KeyEdit

/-! ## Runs -/

namespace State

variable {state : State} {id : Nat} {service : String}

/-- What is bound after a run, by the last word of the run. -/
theorem HasService.get?_after_run (has : state.HasService id service) (commands : List Command)
    (key : String) :
    Dict.get? key ((run state commands).boundKeys (.service id service)) =
      (KeyEdit.lastWord? key (keyEditsOfRun id service state.coldStart commands)).getD
        (Dict.get? key (state.boundKeys (.service id service))) := by
  rw [run_bound_keys commands has, KeyEdit.get?_apply_all]

end State

end FunctionKit.Logging
