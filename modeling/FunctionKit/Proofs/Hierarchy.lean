import Mathlib.Data.List.Sort
import FunctionKit.Proofs.ByteOrder
import FunctionKit.Proofs.Names

/-!
# The hierarchy of a registry

The parent that an entry stores is the nearest registered name above its own. Registering keeps
this although it only looks at one stretch of the ordered names, and changing an entry keeps it as
long as the parent is left alone.
-/

namespace FunctionKit.Logging

set_option autoImplicit false

/-- The longest of the names above a name, or the root where none is above it. -/
inductive NearestAbove (names : List String) (name : String) : String → Prop
  | listed {upper : String} (member : upper ∈ names) (above : IsAbove upper name)
      (longest : ∀ other ∈ names, IsAbove other name → other.length ≤ upper.length) :
      NearestAbove names name upper
  | top (alone : ∀ other ∈ names, ¬IsAbove other name) : NearestAbove names name rootName

namespace NearestAbove

variable {names more : List String} {name new upper : String}

theorem unique {first second : String} (left : NearestAbove names name first)
    (right : NearestAbove names name second) : first = second := by
  cases left with
  | listed member above longest =>
      cases right with
      | listed otherMember otherAbove otherLongest =>
          have atMost := otherLongest _ member above
          have atLeast := longest _ otherMember otherAbove
          exact above.eq_of_length_eq otherAbove (le_antisymm atMost atLeast)
      | top alone => exact absurd above (alone _ member)
  | top alone =>
      cases right with
      | listed member above _ => exact absurd above (alone _ member)
      | top _ => rfl

theorem starts (nearest : NearestAbove names name upper) : upper.toList <+: name.toList := by
  cases nearest with
  | listed _ above _ => exact above.starts
  | top _ => exact List.nil_prefix

theorem shorter (nearest : NearestAbove names name upper) (named : name ≠ rootName) :
    upper.length < name.length := by
  cases nearest with
  | listed _ above _ => exact above.shorter
  | top _ => exact root_is_shorter named

/-- A new name that is not above leaves the nearest one in place. -/
theorem keep_outside (nearest : NearestAbove names name upper)
    (extended : ∀ other, other ∈ more ↔ other = new ∨ other ∈ names)
    (outside : ¬IsAbove new name) : NearestAbove more name upper := by
  have known : ∀ other ∈ more, IsAbove other name → other ∈ names := by
    intro other member above
    rcases (extended other).mp member with same | old
    · exact absurd (same ▸ above) outside
    · exact old
  cases nearest with
  | listed member above longest =>
      exact .listed ((extended upper).mpr (.inr member)) above
        fun other otherMember otherAbove =>
          longest other (known other otherMember otherAbove) otherAbove
  | top alone =>
      exact .top fun other member above => alone other (known other member above) above

/-- A new name above that is longer takes over. -/
theorem take_over (nearest : NearestAbove names name upper)
    (extended : ∀ other, other ∈ more ↔ other = new ∨ other ∈ names)
    (above : IsAbove new name) (longer : upper.length < new.length) :
    NearestAbove more name new := by
  apply listed ((extended new).mpr (.inl rfl)) above
  intro other member otherAbove
  rcases (extended other).mp member with same | old
  · rw [same]
  · cases nearest with
    | listed _ _ longest => exact (longest other old otherAbove).trans longer.le
    | top alone => exact absurd otherAbove (alone other old)

/-- A new name above that is not longer leaves the nearest one in place. -/
theorem keep_longer (nearest : NearestAbove names name upper)
    (extended : ∀ other, other ∈ more ↔ other = new ∨ other ∈ names)
    (named : new ≠ rootName) (notLonger : ¬upper.length < new.length) :
    NearestAbove more name upper := by
  cases nearest with
  | listed member above longest =>
      apply listed ((extended upper).mpr (.inr member)) above
      intro other otherMember otherAbove
      rcases (extended other).mp otherMember with same | old
      · rw [same]
        omega
      · exact longest other old otherAbove
  | top _ => exact absurd (root_is_shorter named) notLonger

end NearestAbove

namespace Registry

/-! ## Hanging entries to a new name -/

def hang (name : String) (entry : String × Entry) : String × Entry :=
  if isBelow entry.1 name then (entry.1, entry.2.rehang name) else entry

theorem hang_eq (name : String) :
    hang name = fun entry =>
      (entry.1, if isBelow entry.1 name then entry.2.rehang name else entry.2) := by
  funext entry
  unfold hang
  split <;> rfl

theorem hang_of_outside {name : String} {entries : Dict Entry}
    (outside : ∀ entry ∈ entries, isBelow entry.1 name = false) :
    entries.map (hang name) = entries := by
  have same : entries.map (hang name) = entries.map id := by
    apply List.map_congr_left
    intro entry member
    simp [hang, outside entry member]
  rw [same, List.map_id]

theorem hang_of_below {name : String} {entries : Dict Entry}
    (below : ∀ entry ∈ entries, isBelow entry.1 name = true) :
    entries.map (hang name) = entries.map fun entry => (entry.1, entry.2.rehang name) := by
  apply List.map_congr_left
  intro entry member
  simp [hang, below entry member]

/-- What a scan of an ordered list has passed stays behind it. -/
theorem fails_beyond_scan {α : Type} {order : α → α → Prop} (test : α → Bool) {items : List α}
    (sorted : items.Pairwise order)
    (closed : ∀ first second, order first second → test first = false → test second = false) :
    ∀ item ∈ items.dropWhile test, test item = false := by
  induction items with
  | nil => simp
  | cons head rest ih =>
      obtain ⟨first, tail⟩ := List.pairwise_cons.mp sorted
      cases verdict : test head with
      | true =>
          rw [List.dropWhile_cons_of_pos verdict]
          exact ih tail
      | false =>
          rw [List.dropWhile_cons_of_neg (by simp [verdict])]
          intro item member
          rcases List.mem_cons.mp member with same | later
          · rw [same]
            exact verdict
          · exact closed head item (first item later) verdict

theorem outside_before_stem {name other : String} (before : other < stem name) :
    isBelow other name = false := by
  rw [Bool.eq_false_iff, ne_eq, is_below_iff]
  exact fun above => not_before_stem above before

theorem not_before_stem_onwards (name : String) {entries : Dict Entry}
    (ordered : Dict.Ordered entries) :
    ∀ entry ∈ entries.dropWhile fun entry => entry.1 < stem name, ¬entry.1 < stem name := by
  let early : String × Entry → Bool := fun entry => entry.1 < stem name
  have closed : ∀ first second : String × Entry, first.1 < second.1 →
      early first = false → early second = false := by
    intro first second less notEarly
    simp only [early, decide_eq_false_iff_not] at notEarly ⊢
    exact fun before => notEarly (lt_trans less before)
  intro entry member
  simpa [early] using fails_beyond_scan early ordered closed entry member

/-- One scan from the stem onwards meets every name below, so the entries that are hung to the new
name are told by their names alone. -/
theorem adopt_eq_map (name : String) {entries : Dict Entry} (ordered : Dict.Ordered entries) :
    adopt name entries = entries.map (hang name) := by
  let early : String × Entry → Bool := fun entry => entry.1 < stem name
  let inside : String × Entry → Bool := fun entry => isBelow entry.1 name
  let onwards := entries.dropWhile early
  -- the entries in front of the scan and those behind it are not below the name
  have beforeOutside : ∀ entry ∈ entries.takeWhile early, isBelow entry.1 name = false := by
    intro entry member
    apply outside_before_stem
    simpa [early] using List.all_eq_true.mp List.all_takeWhile entry member
  have notBefore : ∀ entry ∈ onwards, ¬entry.1 < stem name := not_before_stem_onwards name ordered
  have onwardsOrdered : onwards.Pairwise fun first second =>
      ¬first.1 < stem name ∧ first.1 < second.1 :=
    (ordered.sublist (List.dropWhile_sublist early)).imp_of_mem
      fun member _ less => ⟨notBefore _ member, less⟩
  have insideBelow : ∀ entry ∈ onwards.takeWhile inside, isBelow entry.1 name = true :=
    fun entry member => List.all_eq_true.mp List.all_takeWhile entry member
  have afterOutside : ∀ entry ∈ onwards.dropWhile inside, isBelow entry.1 name = false := by
    apply fails_beyond_scan inside onwardsOrdered
    intro first second less outside
    simp only [inside, Bool.eq_false_iff, ne_eq, is_below_iff] at outside ⊢
    exact not_above_of_after less.1 outside less.2
  have pieces : entries = entries.takeWhile early ++
      (onwards.takeWhile inside ++ onwards.dropWhile inside) := by
    rw [List.takeWhile_append_dropWhile, List.takeWhile_append_dropWhile]
  conv_rhs => rw [pieces]
  rw [List.map_append, List.map_append, hang_of_outside beforeOutside, hang_of_below insideBelow,
    hang_of_outside afterOutside, ← List.append_assoc]
  rfl

theorem keys_adopt (name : String) {entries : Dict Entry} (ordered : Dict.Ordered entries) :
    Dict.keys (adopt name entries) = Dict.keys entries := by
  rw [adopt_eq_map name ordered, hang_eq]
  exact Dict.keys_map
    (fun other entry => if isBelow other name then entry.rehang name else entry) entries

theorem adopt_ordered (name : String) {entries : Dict Entry} (ordered : Dict.Ordered entries) :
    Dict.Ordered (adopt name entries) := by
  rw [Dict.ordered_iff_keys_ascend, keys_adopt name ordered]
  exact (Dict.ordered_iff_keys_ascend entries).mp ordered

theorem get?_adopt (name other : String) {entries : Dict Entry}
    (ordered : Dict.Ordered entries) :
    Dict.get? other (adopt name entries) =
      (Dict.get? other entries).map fun entry =>
        if isBelow other name then entry.rehang name else entry := by
  rw [adopt_eq_map name ordered, hang_eq]
  exact Dict.get?_map
    (fun other entry => if isBelow other name then entry.rehang name else entry) entries other

/-! ## What registering does -/

theorem register_new {registry : Registry} {name : String}
    (new : registry.isRegistered name = false) :
    registry.register name =
      { registry with
        named := Dict.insert name (Entry.fresh name (some (registry.nearestAbove name)))
          (adopt name registry.named) } := by
  simp [register, new]

theorem not_root_of_new {registry : Registry} {name : String}
    (new : registry.isRegistered name = false) : name ≠ rootName := by
  intro atRoot
  simp [isRegistered, get?, atRoot] at new

theorem mem_names_iff {registry : Registry} {name : String} (named : name ≠ rootName) :
    name ∈ registry.names ↔ registry.isRegistered name = true := by
  unfold names isRegistered get?
  rw [if_neg named, ← Dict.contains_iff_mem_keys]
  rfl

theorem get?_register {registry : Registry} {name : String} (other : String)
    (ordered : Dict.Ordered registry.named) (new : registry.isRegistered name = false) :
    (registry.register name).get? other =
      if other = name then some (Entry.fresh name (some (registry.nearestAbove name)))
      else (registry.get? other).map fun entry =>
        if isBelow other name then entry.rehang name else entry := by
  have named := not_root_of_new new
  rw [register_new new]
  by_cases atRoot : other = rootName
  · subst atRoot
    have outside : isBelow rootName name = false := by
      rw [Bool.eq_false_iff, ne_eq, is_below_iff]
      exact root_is_above_nothing_empty name
    simp [get?, Ne.symm named, outside]
  · simp only [get?, if_neg atRoot]
    rw [Dict.get?_insert, get?_adopt name other ordered]
    by_cases same : name = other
    · simp [same]
    · have apart : ¬other = name := fun equal => same equal.symm
      simp [same, apart]

theorem mem_names_register {registry : Registry} {name : String} (other : String)
    (ordered : Dict.Ordered registry.named) (new : registry.isRegistered name = false) :
    other ∈ (registry.register name).names ↔ other = name ∨ other ∈ registry.names := by
  rw [register_new new]
  unfold names
  rw [Dict.mem_keys_insert, keys_adopt name ordered]

theorem nearest_above_spec (registry : Registry) (name : String) :
    NearestAbove registry.names name (registry.nearestAbove name) := by
  unfold nearestAbove
  cases found : (namesAbove name).find? fun upper => Dict.contains upper registry.named with
  | none =>
      apply NearestAbove.top
      intro other member above
      have listed := (mem_names_above other name).mpr above
      have missed := List.find?_eq_none.mp found other listed
      exact missed ((Dict.contains_iff_mem_keys other registry.named).mpr member)
  | some upper =>
      change NearestAbove registry.names name upper
      obtain ⟨held, before, after, split, passed⟩ := List.find?_eq_some_iff_append.mp found
      have listed : upper ∈ namesAbove name := List.mem_of_find?_eq_some found
      apply NearestAbove.listed ((Dict.contains_iff_mem_keys upper registry.named).mp held)
        ((mem_names_above upper name).mp listed)
      intro other member above
      have otherListed := (mem_names_above other name).mpr above
      have otherHeld := (Dict.contains_iff_mem_keys other registry.named).mpr member
      rw [split] at otherListed
      rcases List.mem_append.mp otherListed with early | late
      · exact absurd otherHeld (by simpa using passed other early)
      · rcases List.mem_cons.mp late with same | later
        · rw [same]
        · have shorten := names_above_shorten name
          rw [split] at shorten
          have tail := (List.pairwise_append.mp shorten).2.1
          exact ((List.pairwise_cons.mp tail).1 other later).le

/-! ## Linked registries -/

/-- Entries stand in order and each of them hangs below the nearest registered name above it. -/
structure Linked (registry : Registry) : Prop where
  ordered : Dict.Ordered registry.named
  root_apart : rootName ∉ registry.names
  root_on_top : registry.root.parent = none
  nearest : ∀ name entry, name ≠ rootName → registry.get? name = some entry →
    ∃ upper, entry.parent = some upper ∧ NearestAbove registry.names name upper

theorem Linked.not_root {registry : Registry} (linked : registry.Linked) {name : String}
    (member : name ∈ registry.names) : name ≠ rootName :=
  fun atRoot => linked.root_apart (atRoot ▸ member)

theorem empty_linked : empty.Linked where
  ordered := List.Pairwise.nil
  root_apart := List.not_mem_nil
  root_on_top := rfl
  nearest := by
    intro name entry named found
    simp [empty, get?, named, Dict.get?] at found

theorem skips_iff {name upper : String} {entry : Entry} (parent : entry.parent = some upper) :
    entry.skips name = true ↔ (Text.utf8Bytes upper).length < (Text.utf8Bytes name).length := by
  rw [Entry.skips, parent, Option.all_some, decide_eq_true_iff]

/-- The parent of an entry and a name above it are starts of one text, so bytes and characters
agree on which of them is shorter. -/
theorem skips_iff_shorter {names : List String} {name other upper : String} {entry : Entry}
    (parent : entry.parent = some upper) (nearest : NearestAbove names other upper)
    (above : IsAbove name other) : entry.skips name = true ↔ upper.length < name.length :=
  (skips_iff parent).trans (Text.utf8_bytes_length_lt_iff nearest.starts above.starts)

theorem register_linked {registry : Registry} (linked : registry.Linked) (name : String) :
    (registry.register name).Linked := by
  cases known : registry.isRegistered name with
  | true =>
      rw [register_registered registry name known]
      exact linked
  | false =>
      have extended := fun other => mem_names_register other linked.ordered known
      have named := not_root_of_new known
      refine ⟨?_, ?_, ?_, ?_⟩
      · rw [register_new known]
        exact Dict.ordered_insert _ _ (adopt_ordered name linked.ordered)
      · intro member
        rcases (extended rootName).mp member with same | old
        · exact named same.symm
        · exact linked.root_apart old
      · rw [register_new known]
        exact linked.root_on_top
      · intro other entry otherNamed found
        rw [get?_register other linked.ordered known] at found
        by_cases same : other = name
        · subst same
          rw [if_pos rfl] at found
          cases found
          exact ⟨_, rfl, (nearest_above_spec registry other).keep_outside extended
            (IsAbove.irrefl other)⟩
        · rw [if_neg same] at found
          obtain ⟨before, beforeFound, rfl⟩ := Option.map_eq_some_iff.mp found
          obtain ⟨upper, parent, nearest⟩ := linked.nearest other before otherNamed beforeFound
          -- the new name can only be nearest to what is below it, and there the longer name wins
          by_cases below : isBelow other name = true
          · rw [if_pos below, Entry.rehang]
            have above := (is_below_iff other name).mp below
            have shorter := skips_iff_shorter parent nearest above
            by_cases skips : before.skips name = true
            · rw [if_pos skips]
              exact ⟨name, rfl, nearest.take_over extended above (shorter.mp skips)⟩
            · rw [if_neg skips]
              exact ⟨upper, parent, nearest.keep_longer extended named (mt shorter.mpr skips)⟩
          · rw [if_neg below]
            rw [is_below_iff] at below
            exact ⟨upper, parent, nearest.keep_outside extended below⟩

theorem mem_names_of_register {registry : Registry} (linked : registry.Linked)
    (name other : String) :
    other ∈ (registry.register name).names ↔
      other ∈ registry.names ∨ other ≠ rootName ∧ other = name := by
  cases known : registry.isRegistered name with
  | true =>
      rw [register_registered registry name known]
      refine ⟨.inl, ?_⟩
      rintro (listed | ⟨named, rfl⟩)
      · exact listed
      · exact (mem_names_iff named).mpr known
  | false =>
      have named := not_root_of_new known
      rw [mem_names_register other linked.ordered known, or_comm]
      refine or_congr_right ⟨fun same => ⟨same ▸ named, same⟩, And.right⟩

theorem modify_linked {registry : Registry} (linked : registry.Linked) (name : String)
    {change : Entry → Entry} (keepsParent : ∀ entry, (change entry).parent = entry.parent) :
    (registry.modify name change).Linked := by
  have sameNames := names_modify registry name change
  refine ⟨?_, ?_, ?_, ?_⟩
  · rw [Dict.ordered_iff_keys_ascend]
    change (registry.modify name change).names.Pairwise (· < ·)
    rw [sameNames]
    exact (Dict.ordered_iff_keys_ascend registry.named).mp linked.ordered
  · rw [sameNames]
    exact linked.root_apart
  · by_cases atRoot : name = rootName
    · simp only [modify, if_pos atRoot]
      rw [keepsParent]
      exact linked.root_on_top
    · simp only [modify, if_neg atRoot]
      exact linked.root_on_top
  · intro other entry otherNamed found
    rw [sameNames]
    rw [get?_modify] at found
    by_cases same : name = other
    · rw [if_pos same] at found
      obtain ⟨before, beforeFound, rfl⟩ := Option.map_eq_some_iff.mp found
      rw [keepsParent]
      exact linked.nearest other before otherNamed beforeFound
    · rw [if_neg same] at found
      exact linked.nearest other entry otherNamed found

end Registry

end FunctionKit.Logging
