import Mathlib.Data.List.Induction
import Mathlib.Data.String.Basic
import FunctionKit.Dict

/-!
# Ordered dictionaries

Look-up in an ordered dictionary finds exactly its entries, and insertion keeps the order while it
adds one key.
-/

namespace FunctionKit.Dict

set_option autoImplicit false

variable {α : Type}

theorem ordered_iff_keys_ascend (entries : Dict α) :
    Ordered entries ↔ (keys entries).Pairwise (· < ·) := by
  unfold Ordered keys
  rw [List.pairwise_map]

theorem contains_iff_mem_keys (key : String) (entries : Dict α) :
    contains key entries = true ↔ key ∈ keys entries := by
  induction entries with
  | nil => simp [contains, get?, keys]
  | cons entry rest ih =>
      obtain ⟨name, value⟩ := entry
      by_cases hit : name = key
      · simp [contains, get?, keys, hit]
      · have missed : ¬key = name := fun same => hit same.symm
        simpa [contains, get?, keys, hit, missed] using ih

theorem mem_keys_iff_exists (key : String) (entries : Dict α) :
    key ∈ keys entries ↔ ∃ value, get? key entries = some value := by
  rw [← contains_iff_mem_keys, contains]
  exact Option.isSome_iff_exists

theorem mem_keys_insert (key other : String) (value : α) (entries : Dict α) :
    other ∈ keys (insert key value entries) ↔ other = key ∨ other ∈ keys entries := by
  rw [← contains_iff_mem_keys, ← contains_iff_mem_keys]
  unfold contains
  rw [get?_insert]
  by_cases same : key = other
  · simp [same]
  · have apart : ¬other = key := fun equal => same equal.symm
    simp [same, apart]

theorem ordered_insert (key : String) (value : α) {entries : Dict α}
    (ordered : Ordered entries) : Ordered (insert key value entries) := by
  induction entries with
  | nil => exact List.pairwise_singleton _ _
  | cons entry rest ih =>
      obtain ⟨name, held⟩ := entry
      obtain ⟨first, tail⟩ := List.pairwise_cons.mp ordered
      simp only [insert]
      split_ifs with same before
      · subst same
        exact List.pairwise_cons.mpr ⟨first, tail⟩
      · apply List.Pairwise.cons _ ordered
        intro other member
        rcases List.mem_cons.mp member with head | later
        · rw [head]
          exact before
        · exact lt_trans before (first other later)
      · apply List.Pairwise.cons _ (ih tail)
        intro other member
        have known : other.1 ∈ keys (insert key value rest) :=
          List.mem_map_of_mem member
        rcases (mem_keys_insert key other.1 value rest).mp known with new | old
        · rw [new]
          exact lt_of_le_of_ne (not_lt.mp before) same
        · obtain ⟨held, heldMember, heldKey⟩ := List.mem_map.mp old
          rw [← heldKey]
          exact first held heldMember

theorem keys_nodup {entries : Dict α} (ordered : Ordered entries) : (keys entries).Nodup :=
  ((ordered_iff_keys_ascend entries).mp ordered).imp fun before => ne_of_lt before

theorem get?_of_not_mem {key : String} {entries : Dict α} (absent : key ∉ keys entries) :
    get? key entries = none := by
  rw [← contains_iff_mem_keys, contains] at absent
  simpa using absent

theorem keys_map (change : String → α → α) (entries : Dict α) :
    keys (entries.map fun entry => (entry.1, change entry.1 entry.2)) = keys entries := by
  unfold keys
  rw [List.map_map]
  rfl

theorem get?_map (change : String → α → α) (entries : Dict α) (key : String) :
    get? key (entries.map fun entry => (entry.1, change entry.1 entry.2)) =
      (get? key entries).map (change key) := by
  induction entries with
  | nil => rfl
  | cons entry rest ih =>
      obtain ⟨name, value⟩ := entry
      by_cases here : name = key
      · subst here
        simp [get?]
      · simpa [get?, here] using ih

/-- With each key once, look-up tells the entries. -/
theorem eq_of_look_up {first second : Dict α} (distinct : (keys first).Nodup)
    (sameKeys : keys second = keys first) (same : ∀ key, get? key second = get? key first) :
    second = first := by
  induction first generalizing second with
  | nil => exact List.map_eq_nil_iff.mp sameKeys
  | cons entry rest ih =>
      obtain ⟨name, value⟩ := entry
      obtain ⟨⟨other, held⟩, others, rfl, sameName, sameRest⟩ := List.map_eq_cons_iff.mp sameKeys
      obtain ⟨unlisted, restDistinct⟩ := List.nodup_cons.mp distinct
      change other = name at sameName
      subst sameName
      have sameValue := same other
      simp only [get?, if_true, Option.some.injEq] at sameValue
      have sameTail : ∀ key, get? key others = get? key rest := by
        intro key
        by_cases here : other = key
        · subst here
          have gone : other ∉ keys others := by
            intro member
            rw [show keys others = keys rest from sameRest] at member
            exact unlisted member
          rw [get?_of_not_mem gone, get?_of_not_mem unlisted]
        · simpa only [get?, if_neg here] using same key
      rw [sameValue, ih restDistinct sameRest sameTail]

/-- A new key joins the keys that are there. -/
theorem keys_insert_perm {key : String} (value : α) {entries : Dict α}
    (ordered : Ordered entries) (new : key ∉ keys entries) :
    (keys (insert key value entries)).Perm (key :: keys entries) := by
  have left := keys_nodup (ordered_insert key value ordered)
  have right := List.nodup_cons.mpr ⟨new, keys_nodup ordered⟩
  rw [List.perm_ext_iff_of_nodup left right]
  intro other
  rw [mem_keys_insert, List.mem_cons]

/-- A key behind all others is put at the end. -/
theorem insert_behind (key : String) (value : α) {entries : Dict α}
    (behind : ∀ entry ∈ entries, entry.1 < key) :
    insert key value entries = entries ++ [(key, value)] := by
  induction entries with
  | nil => rfl
  | cons entry rest ih =>
      obtain ⟨name, held⟩ := entry
      have before : name < key := behind (name, held) List.mem_cons_self
      have later := ih fun other member => behind other (List.mem_cons_of_mem _ member)
      simp only [insert, if_neg (ne_of_lt before), if_neg (lt_asymm before), later,
        List.cons_append]

/-- Puts entries in their places one after the other. -/
def insertAll (pairs : List (String × α)) (start : Dict α) : Dict α :=
  pairs.foldl (fun held pair => insert pair.1 pair.2 held) start

theorem insert_all_of_ordered (entries start : Dict α) (ordered : Ordered (start ++ entries)) :
    insertAll entries start = start ++ entries := by
  induction entries generalizing start with
  | nil => exact (List.append_nil start).symm
  | cons entry rest ih =>
      obtain ⟨_, _, apart⟩ := List.pairwise_append.mp ordered
      have behind : ∀ other ∈ start, other.1 < entry.1 :=
        fun other member => apart other member entry List.mem_cons_self
      have regroup : start ++ entry :: rest = (start ++ [entry]) ++ rest := by
        rw [List.append_assoc]
        rfl
      rw [regroup] at ordered ⊢
      rw [← ih _ ordered, ← insert_behind entry.1 entry.2 behind]
      rfl

/-- Entries that are in order stay as they are. -/
theorem of_pairs_of_ordered {entries : Dict α} (ordered : Ordered entries) :
    ofPairs entries = entries :=
  insert_all_of_ordered entries [] ordered

theorem ordered_insert_all (pairs : List (String × α)) {start : Dict α} (ordered : Ordered start) :
    Ordered (insertAll pairs start) := by
  induction pairs generalizing start with
  | nil => exact ordered
  | cons pair rest ih => exact ih (ordered_insert pair.1 pair.2 ordered)

/-- Of entries with each key once, none takes the place of another. -/
theorem get?_insert_all {pairs : List (String × α)} (distinct : (keys pairs).Nodup)
    (start : Dict α) (key : String) :
    get? key (insertAll pairs start) = (get? key pairs).or (get? key start) := by
  induction pairs generalizing start with
  | nil => rfl
  | cons pair rest ih =>
      obtain ⟨name, value⟩ := pair
      obtain ⟨unlisted, restDistinct⟩ := List.nodup_cons.mp distinct
      have later := ih restDistinct (insert name value start)
      rw [get?_insert] at later
      by_cases here : name = key
      · have nowhere : get? key rest = none := by
          rw [← here]
          exact get?_of_not_mem unlisted
        rw [if_pos here, nowhere] at later
        rw [get?, if_pos here]
        exact later
      · rw [if_neg here] at later
        rw [get?, if_neg here]
        exact later

/-- The last value that some entries have for a key. -/
def lastValue? (key : String) (pairs : List (String × α)) : Option α :=
  (pairs.filterMap fun pair => if pair.1 = key then some pair.2 else none).getLast?

theorem last_value_concat (key : String) (earlier : List (String × α)) (last : String × α) :
    lastValue? key (earlier ++ [last]) =
      if last.1 = key then some last.2 else lastValue? key earlier := by
  unfold lastValue?
  rw [List.filterMap_append]
  by_cases here : last.1 = key
  · simp [here]
  · simp [here]

theorem last_value_append (key : String) (early late : List (String × α)) :
    lastValue? key (early ++ late) = (lastValue? key late).or (lastValue? key early) := by
  unfold lastValue?
  rw [List.filterMap_append, List.getLast?_append]

theorem last_value_eq_none_iff {key : String} {pairs : List (String × α)} :
    lastValue? key pairs = none ↔ key ∉ keys pairs := by
  unfold lastValue? keys
  rw [List.getLast?_eq_none_iff, List.filterMap_eq_nil_iff]
  simp only [List.mem_map, not_exists, not_and, ite_eq_right_iff, reduceCtorEq, imp_false]

theorem last_value_of_absent {key : String} {pairs : List (String × α)}
    (absent : key ∉ keys pairs) : lastValue? key pairs = none :=
  last_value_eq_none_iff.mpr absent

/-- The last value of a key stands in front of entries with other keys. -/
theorem last_value_iff {key : String} {pairs : List (String × α)} {value : α} :
    lastValue? key pairs = some value ↔
      ∃ early late, pairs = early ++ (key, value) :: late ∧ key ∉ keys late := by
  constructor
  · intro found
    induction pairs using List.reverseRecOn with
    | nil => cases found
    | append_singleton earlier last ih =>
        obtain ⟨name, held⟩ := last
        rw [last_value_concat] at found
        by_cases here : name = key
        · rw [if_pos here] at found
          cases found
          exact ⟨earlier, [], by rw [here], List.not_mem_nil⟩
        · rw [if_neg here] at found
          obtain ⟨early, late, rfl, absent⟩ := ih found
          refine ⟨early, late ++ [(name, held)], by simp, ?_⟩
          simpa [keys, Ne.symm here] using absent
  · rintro ⟨early, late, rfl, absent⟩
    have regroup : early ++ (key, value) :: late = (early ++ [(key, value)]) ++ late := by simp
    rw [regroup, last_value_append, last_value_of_absent absent, last_value_concat, if_pos rfl]
    rfl

/-- Whether keys are repeated or not, the last entry of a key is the one that is found. -/
theorem get?_insert_all_last (pairs : List (String × α)) (start : Dict α) (key : String) :
    get? key (insertAll pairs start) = (lastValue? key pairs).or (get? key start) := by
  induction pairs using List.reverseRecOn with
  | nil => rfl
  | append_singleton earlier last ih =>
      have split : insertAll (earlier ++ [last]) start =
          insert last.1 last.2 (insertAll earlier start) := by
        unfold insertAll
        rw [List.foldl_append]
        rfl
      rw [split, get?_insert, last_value_concat]
      by_cases here : last.1 = key
      · rw [if_pos here, if_pos here]
        rfl
      · rw [if_neg here, if_neg here, ih]

theorem get?_of_pairs_last (pairs : List (String × α)) (key : String) :
    get? key (ofPairs pairs) = lastValue? key pairs := by
  have inserted := get?_insert_all_last pairs [] key
  rw [get?, Option.or_none] at inserted
  exact inserted

theorem get?_of_pairs {pairs : List (String × α)} (distinct : (keys pairs).Nodup) (key : String) :
    get? key (ofPairs pairs) = get? key pairs := by
  have inserted := get?_insert_all distinct [] key
  rw [get?, Option.or_none] at inserted
  exact inserted

theorem ordered_of_pairs (pairs : List (String × α)) : Ordered (ofPairs pairs) :=
  ordered_insert_all pairs List.Pairwise.nil

theorem mem_insert {key : String} {value : α} {entries : Dict α} {entry : String × α}
    (member : entry ∈ insert key value entries) : entry = (key, value) ∨ entry ∈ entries := by
  induction entries with
  | nil => exact Or.inl (List.mem_singleton.mp member)
  | cons first rest ih =>
      obtain ⟨name, held⟩ := first
      simp only [insert] at member
      split_ifs at member with same before
      · rcases List.mem_cons.mp member with new | old
        · exact Or.inl new
        · exact Or.inr (List.mem_cons_of_mem _ old)
      · exact List.mem_cons.mp member
      · rcases List.mem_cons.mp member with head | later
        · exact Or.inr (List.mem_cons.mpr (Or.inl head))
        · exact (ih later).imp_right (List.mem_cons_of_mem _)

theorem mem_insert_all {pairs : List (String × α)} {start : Dict α} {entry : String × α}
    (member : entry ∈ insertAll pairs start) : entry ∈ pairs ∨ entry ∈ start := by
  induction pairs generalizing start with
  | nil => exact Or.inr member
  | cons pair rest ih =>
      rcases ih member with later | before
      · exact Or.inl (List.mem_cons_of_mem _ later)
      · exact (mem_insert before).imp (fun here => List.mem_cons.mpr (Or.inl here)) id

theorem ordered_filter (keep : String × α → Bool) {entries : Dict α} (ordered : Ordered entries) :
    Ordered (entries.filter keep) :=
  ordered.sublist List.filter_sublist

theorem get?_filter {entries : Dict α} (distinct : (keys entries).Nodup)
    (keep : String × α → Bool) (key : String) :
    get? key (entries.filter keep) = (get? key entries).filter fun value => keep (key, value) := by
  induction entries with
  | nil => rfl
  | cons entry rest ih =>
      obtain ⟨name, value⟩ := entry
      obtain ⟨unlisted, restDistinct⟩ := List.nodup_cons.mp distinct
      have tail := ih restDistinct
      by_cases here : name = key
      · subst here
        rw [get?_of_not_mem unlisted] at tail
        cases kept : keep (name, value) with
        | true => simp [kept, get?, Option.filter]
        | false => simpa [List.filter_cons, kept, get?, Option.filter] using tail
      · cases kept : keep (name, value) with
        | true => simpa [List.filter_cons, kept, get?, here] using tail
        | false => simpa [List.filter_cons, kept, get?, here] using tail

/-- What is in order is told by its look-ups. -/
theorem eq_of_ordered {first second : Dict α} (left : Ordered first) (right : Ordered second)
    (same : ∀ key, get? key second = get? key first) : second = first := by
  have distinct := keys_nodup left
  apply eq_of_look_up distinct _ same
  have members : ∀ key, key ∈ keys second ↔ key ∈ keys first := by
    intro key
    rw [← contains_iff_mem_keys, ← contains_iff_mem_keys, contains, contains, same]
  have perm := (List.perm_ext_iff_of_nodup (keys_nodup right) distinct).mpr members
  apply perm.eq_of_pairwise _ ((ordered_iff_keys_ascend second).mp right)
    ((ordered_iff_keys_ascend first).mp left)
  intro key other _ _ before after
  exact absurd after (lt_asymm before)

end FunctionKit.Dict
