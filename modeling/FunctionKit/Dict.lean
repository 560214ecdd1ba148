/-!
# Dictionaries

Entries in ascending order of their keys, each key once. Insertion and removal are single passes
whose effect on look-up holds for any list of entries; `Ordered` is the normal form that they keep.
-/

namespace FunctionKit

set_option autoImplicit false

abbrev Dict (α : Type) := List (String × α)

namespace Dict

variable {α β : Type}

def get? (key : String) : Dict α → Option α
  | [] => none
  | (name, value) :: rest => if name = key then some value else get? key rest

def contains (key : String) (entries : Dict α) : Bool :=
  (get? key entries).isSome

/-- Puts a value in its place, over an earlier value of the same key. -/
def insert (key : String) (value : α) : Dict α → Dict α
  | [] => [(key, value)]
  | (name, held) :: rest =>
    if name = key then (key, value) :: rest
    else if key < name then (key, value) :: (name, held) :: rest
    else (name, held) :: insert key value rest

def erase (key : String) : Dict α → Dict α
  | [] => []
  | (name, held) :: rest =>
    if name = key then erase key rest else (name, held) :: erase key rest

def modify (key : String) (change : α → α) (entries : Dict α) : Dict α :=
  entries.map fun entry => if entry.1 = key then (entry.1, change entry.2) else entry

def keys (entries : Dict α) : List String :=
  entries.map Prod.fst

/-- Entries in any order, a later one taking the place of an earlier one with its key. -/
def ofPairs (pairs : List (String × α)) : Dict α :=
  pairs.foldl (fun entries pair => insert pair.1 pair.2 entries) []

def Ordered (entries : Dict α) : Prop :=
  entries.Pairwise fun first second => first.1 < second.1

theorem get?_insert (key other : String) (value : α) (entries : Dict α) :
    get? other (insert key value entries) =
      if key = other then some value else get? other entries := by
  induction entries with
  | nil => simp [insert, get?]
  | cons entry rest tail =>
    obtain ⟨name, held⟩ := entry
    simp only [insert]
    split
    · rename_i same
      subst same
      by_cases hit : name = other <;> simp [get?, hit]
    · split
      · simp [get?]
      · by_cases hit : name = other
        · subst hit
          have apart : ¬ key = name := fun same => by simp_all
          simp [get?, apart]
        · simp [get?, hit, tail]

theorem get?_erase (key other : String) (entries : Dict α) :
    get? other (erase key entries) = if key = other then none else get? other entries := by
  induction entries with
  | nil => simp [erase, get?]
  | cons entry rest tail =>
    obtain ⟨name, held⟩ := entry
    by_cases gone : name = key
    · subst gone
      by_cases hit : name = other
      · subst hit
        simpa [erase] using tail
      · simp [erase, get?, hit, tail]
    · by_cases hit : name = other
      · subst hit
        simp [erase, get?, gone, Ne.symm gone]
      · simp [erase, get?, gone, hit, tail]

theorem get?_modify (key other : String) (change : α → α) (entries : Dict α) :
    get? other (modify key change entries) =
      if key = other then (get? other entries).map change else get? other entries := by
  induction entries with
  | nil => simp [modify, get?]
  | cons entry rest tail =>
    obtain ⟨name, held⟩ := entry
    simp only [modify, List.map_cons] at tail ⊢
    by_cases here : name = key
    · subst here
      by_cases hit : name = other <;> simp_all [get?]
    · by_cases hit : name = other
      · subst hit
        simp [get?, here, Ne.symm here]
      · simp [get?, here, hit, tail]

theorem keys_modify (key : String) (change : α → α) (entries : Dict α) :
    keys (modify key change entries) = keys entries := by
  simp only [keys, modify, List.map_map]
  apply List.map_congr_left
  intro entry _
  by_cases here : entry.1 = key <;> simp [here]

end Dict

end FunctionKit
