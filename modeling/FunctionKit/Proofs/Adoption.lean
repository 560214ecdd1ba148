import FunctionKit.Proofs.Transparency

/-!
# Adoption by a new name

A new name adopts entries in one scan over the ordered names. The scan begins at the stem, meets
one name after the other and ends at the first that does not start with the stem; all it compares
is bytes. It meets exactly the registered names below the new one, and of the entries it meets it
hangs those to the new name whose parent is shorter.
-/

namespace FunctionKit.Logging

set_option autoImplicit false

namespace Registry

/-! ## The scan -/

def startsWithStem (name other : String) : Bool :=
  (Text.utf8Bytes (stem name)).isPrefixOf (Text.utf8Bytes other)

def isBeforeStem (name other : String) : Bool :=
  Text.utf8Bytes other < Text.utf8Bytes (stem name)

/-- What a scan has done so far: the names it has met, the first one first, and the entries behind
it as it has left them. -/
structure Scan where
  met : List String
  behind : Dict Entry

namespace Scan

/-- One round: the name is met, and its entry hung to the new name if it hangs higher. -/
def meet (name : String) (scan : Scan) (entry : String × Entry) : Scan :=
  { met := scan.met ++ [entry.1]
    behind := scan.behind ++ [(entry.1, entry.2.rehang name)] }

def pass (scan : Scan) (entries : Dict Entry) : Scan :=
  { scan with behind := scan.behind ++ entries }

/-- Meets the names ahead one after the other, up to the first that does not start with the stem. -/
def onwards (name : String) (scan : Scan) : Dict Entry → Scan
  | [] => scan
  | entry :: ahead =>
    if startsWithStem name entry.1 then onwards name (scan.meet name entry) ahead
    else scan.pass (entry :: ahead)

end Scan

/-- The scan for a name, from the first name on that is not before the stem. -/
def scanFor (name : String) (entries : Dict Entry) : Scan :=
  let early : String × Entry → Bool := fun entry => isBeforeStem name entry.1
  Scan.onwards name ⟨[], entries.takeWhile early⟩ (entries.dropWhile early)

theorem starts_with_stem_eq (name other : String) :
    startsWithStem name other = isBelow other name := by
  rw [Bool.eq_iff_iff, startsWithStem, isBelow, startsWith, List.isPrefixOf_iff_prefix,
    List.isPrefixOf_iff_prefix, Text.utf8_bytes_prefix_iff]

theorem is_before_stem_eq (name : String) :
    (fun entry : String × Entry => isBeforeStem name entry.1) =
      fun entry => decide (entry.1 < stem name) := by
  funext entry
  rw [isBeforeStem, decide_eq_decide, Text.utf8_bytes_lt_iff]

/-! ## What a scan has met -/

/-- The scan has met exactly the names below among the entries it has seen, and hung their entries
to the name. -/
structure Scan.Covers (name : String) (seen : Dict Entry) (scan : Scan) : Prop where
  met : scan.met = (Dict.keys seen).filter (isBelow · name)
  behind : scan.behind = seen.map (hang name)

namespace Scan.Covers

variable {name : String} {seen : Dict Entry} {scan : Scan}

theorem meet (covers : scan.Covers name seen) {entry : String × Entry}
    (below : isBelow entry.1 name = true) :
    (scan.meet name entry).Covers name (seen ++ [entry]) := by
  constructor
  · simp [Scan.meet, covers.met, Dict.keys, below]
  · simp [Scan.meet, covers.behind, hang, below]

theorem pass (covers : scan.Covers name seen) {entries : Dict Entry}
    (outside : ∀ entry ∈ entries, isBelow entry.1 name = false) :
    (scan.pass entries).Covers name (seen ++ entries) := by
  have nobody : (Dict.keys entries).filter (isBelow · name) = [] := by
    rw [List.filter_eq_nil_iff]
    intro other member
    obtain ⟨entry, entryMember, rfl⟩ := List.mem_map.mp member
    simp [outside entry entryMember]
  constructor
  · have keys : Dict.keys (seen ++ entries) = Dict.keys seen ++ Dict.keys entries :=
      List.map_append
    rw [keys, List.filter_append, nobody, List.append_nil]
    exact covers.met
  · rw [List.map_append, hang_of_outside outside, ← covers.behind]
    rfl

theorem onwards (covers : scan.Covers name seen) {ahead : Dict Entry}
    (ordered : Dict.Ordered ahead) (notBefore : ∀ entry ∈ ahead, ¬entry.1 < stem name) :
    (scan.onwards name ahead).Covers name (seen ++ ahead) := by
  induction ahead generalizing scan seen with
  | nil =>
      rw [List.append_nil]
      exact covers
  | cons entry ahead ih =>
      obtain ⟨first, tail⟩ := List.pairwise_cons.mp ordered
      rw [Scan.onwards, starts_with_stem_eq]
      by_cases below : isBelow entry.1 name = true
      · rw [if_pos below]
        have rest := ih (covers.meet below) tail
          fun other member => notBefore other (List.mem_cons_of_mem _ member)
        rwa [List.append_assoc] at rest
      · rw [if_neg below]
        apply covers.pass
        -- nothing below can come after a name at or behind the stem that is not below
        intro other member
        rcases List.mem_cons.mp member with same | later
        · rw [same]
          exact Bool.eq_false_iff.mpr below
        · rw [is_below_iff] at below
          rw [Bool.eq_false_iff, ne_eq, is_below_iff]
          exact not_above_of_after (notBefore entry List.mem_cons_self) below (first other later)

end Scan.Covers

theorem scan_covers (name : String) {entries : Dict Entry} (ordered : Dict.Ordered entries) :
    (scanFor name entries).Covers name entries := by
  let early : String × Entry → Bool := fun entry => entry.1 < stem name
  have begun : Scan.Covers name (entries.takeWhile early) ⟨[], entries.takeWhile early⟩ := by
    have nothing : Scan.Covers name [] ⟨[], []⟩ := ⟨rfl, rfl⟩
    apply nothing.pass
    intro entry member
    apply outside_before_stem
    simpa [early] using List.all_eq_true.mp List.all_takeWhile entry member
  have ended := begun.onwards (ordered.sublist (List.dropWhile_sublist early))
    (not_before_stem_onwards name ordered)
  rw [List.takeWhile_append_dropWhile] at ended
  rw [scanFor, is_before_stem_eq]
  exact ended

theorem met_onwards (name : String) (scan : Scan) (ahead : Dict Entry) :
    (scan.onwards name ahead).met =
      scan.met ++ Dict.keys (ahead.takeWhile fun entry => isBelow entry.1 name) := by
  induction ahead generalizing scan with
  | nil => exact (List.append_nil scan.met).symm
  | cons entry ahead ih =>
      rw [Scan.onwards, starts_with_stem_eq]
      by_cases below : isBelow entry.1 name = true
      · rw [if_pos below, ih]
        simp [Scan.meet, Dict.keys, below]
      · rw [if_neg below]
        simp [Scan.pass, Dict.keys, below]

/-- In whatever order the entries are, the names met are those of the stretch that `adopt`
changes. -/
theorem met_eq_adopted (name : String) (entries : Dict Entry) :
    (scanFor name entries).met =
      Dict.keys ((entries.dropWhile fun entry => entry.1 < stem name).takeWhile
        fun entry => isBelow entry.1 name) := by
  have ended := met_onwards name ⟨[], entries.takeWhile fun entry => entry.1 < stem name⟩
    (entries.dropWhile fun entry => entry.1 < stem name)
  rw [scanFor, is_before_stem_eq]
  exact ended

theorem mem_met_iff {name : String} {entries : Dict Entry} (ordered : Dict.Ordered entries)
    (other : String) :
    other ∈ (scanFor name entries).met ↔ other ∈ Dict.keys entries ∧ IsAbove name other := by
  rw [(scan_covers name ordered).met, List.mem_filter, is_below_iff]

/-- The scan leaves behind what `adopt` makes of the entries. -/
theorem behind_eq_adopt (name : String) {entries : Dict Entry} (ordered : Dict.Ordered entries) :
    (scanFor name entries).behind = adopt name entries := by
  rw [(scan_covers name ordered).behind, adopt_eq_map name ordered]

theorem hung_if_met {name other : String} {entry : Entry} {entries : Dict Entry}
    (ordered : Dict.Ordered entries) (listed : other ∈ Dict.keys entries) :
    (if isBelow other name then entry.rehang name else entry) =
      if other ∈ (scanFor name entries).met ∧ entry.skips name = true then
        { entry with parent := some name } else entry := by
  have met : other ∈ (scanFor name entries).met ↔ isBelow other name = true := by
    rw [mem_met_iff ordered, is_below_iff]
    exact and_iff_right listed
  by_cases below : isBelow other name = true
  · rw [if_pos below, Entry.rehang]
    simp only [met.mpr below, true_and]
  · have unmet : ¬(other ∈ (scanFor name entries).met ∧ entry.skips name = true) :=
      fun both => below (met.mp both.1)
    rw [if_neg below, if_neg unmet]

/-! ## Complete and exact scans -/

/-- Two names above a third: the shorter one lies above the longer. -/
theorem shorter_iff_above {registry : Registry} {name other upper : String}
    (new : registry.isRegistered name = false)
    (nearest : NearestAbove registry.names other upper) (above : IsAbove name other) :
    upper.length < name.length ↔ upper = rootName ∨ IsAbove upper name := by
  constructor
  · intro shorter
    cases nearest with
    | listed _ upperAbove _ => exact Or.inr (upperAbove.of_shorter above shorter)
    | top _ => exact Or.inl rfl
  · rintro (rfl | higher)
    · exact root_is_shorter (not_root_of_new new)
    · exact higher.shorter

theorem Reachable.register {registry : Registry} (reachable : registry.Reachable) (name : String) :
    (registry.register name).Reachable := by
  obtain ⟨_, id, ⟨start, commands, begins, rfl⟩, rfl⟩ := reachable
  let state := State.run start commands
  have later : State.run start (commands ++ [.register id name]) = state.register id name :=
    State.run_append start commands [.register id name]
  exact ⟨state.register id name, id, ⟨start, _, begins, later.symm⟩,
    state.registry_register id name⟩

/-- Any names at all may be what a run has registered. -/
theorem names_can_be_any (names : List String) (apart : rootName ∉ names) :
    ∃ registry : Registry, registry.Reachable ∧
      ∀ other, other ∈ registry.names ↔ other ∈ names := by
  induction names with
  | nil =>
      have nobody : Registry.empty.names = [] := rfl
      refine ⟨.empty, ⟨.initial, 0, ⟨.initial, [], .inl rfl, rfl⟩, rfl⟩, ?_⟩
      intro other
      rw [nobody]
  | cons name rest ih =>
      rw [List.mem_cons, not_or] at apart
      obtain ⟨registry, reachable, listed⟩ := ih apart.2
      refine ⟨registry.register name, reachable.register name, ?_⟩
      intro other
      have named : other = name → other ≠ rootName := fun same root => apart.1 (root ▸ same)
      rw [mem_names_of_register reachable.linked, listed, List.mem_cons, or_comm,
        and_iff_right_of_imp named]

/-- Over names in the order of their bytes, the scan for a name meets exactly those that start with
it and a dot, and changes nothing but the parents of those that hang higher. The names that are
registered can be any. When the name joins them, its entry is put among those that the scan leaves:
the entries it has met whose parent has fewer bytes now hang below the name, and all others stay as
they were. -/
theorem scans_meet_exactly_the_names_below (name : String) :
    (∀ entries : Dict Entry,
      ((Dict.keys entries).Pairwise fun first second =>
        Text.utf8Bytes first < Text.utf8Bytes second) →
      let scan := scanFor name entries
      (∀ other, other ∈ scan.met ↔ other ∈ Dict.keys entries ∧ IsAbove name other) ∧
        scan.met.Sublist (Dict.keys entries) ∧ scan.met.Nodup ∧
        scan.met = Dict.keys ((entries.dropWhile fun entry => entry.1 < stem name).takeWhile
          fun entry => isBelow entry.1 name) ∧
        Dict.keys scan.behind = Dict.keys entries ∧
        ∀ other entry, Dict.get? other entries = some entry →
          Dict.get? other scan.behind = some
            (if other ∈ scan.met ∧ entry.skips name = true then { entry with parent := some name }
              else entry)) ∧
    (∀ names : List String, rootName ∉ names → ∃ registry : Registry, registry.Reachable ∧
      ∀ other, other ∈ registry.names ↔ other ∈ names) ∧
    ∀ registry : Registry, registry.Reachable → registry.isRegistered name = false →
      let scan := scanFor name registry.named
      let after := registry.register name
      after.root = registry.root ∧
        after.named = Dict.insert name (Entry.fresh name (some (registry.nearestAbove name)))
          scan.behind ∧
        ∀ other ∈ registry.names, ∃ entry parent,
          registry.get? other = some entry ∧ entry.parent = some parent ∧
            after.get? other = some
              (if other ∈ scan.met ∧
                  (Text.utf8Bytes parent).length < (Text.utf8Bytes name).length then
                { entry with parent := some name } else entry) ∧
            (other ∈ scan.met →
              ((Text.utf8Bytes parent).length < (Text.utf8Bytes name).length ↔
                parent = rootName ∨ IsAbove parent name)) := by
  refine ⟨?_, names_can_be_any, ?_⟩
  · intro entries ascending scan
    have ordered := (Text.ordered_iff_bytes_ascend entries).mpr ascending
    have covers : scan.Covers name entries := scan_covers name ordered
    have inOrder : scan.met.Sublist (Dict.keys entries) := by
      rw [covers.met]
      exact List.filter_sublist
    refine ⟨mem_met_iff ordered, inOrder, inOrder.nodup (Dict.keys_nodup ordered),
      met_eq_adopted name entries, ?_, ?_⟩
    · rw [behind_eq_adopt name ordered, keys_adopt name ordered]
    · intro other entry found
      have listed := (Dict.mem_keys_iff_exists other entries).mpr ⟨entry, found⟩
      rw [behind_eq_adopt name ordered, get?_adopt name other ordered, found, Option.map_some,
        hung_if_met ordered listed]
  · intro registry reachable new scan after
    have linked := reachable.linked
    have ordered := linked.ordered
    have registered : after = _ := register_new new
    refine ⟨?_, ?_, ?_⟩
    · rw [registered]
    · rw [registered, behind_eq_adopt name ordered]
    · intro other member
      have named := linked.not_root member
      have apart : other ≠ name := fun same => not_listed_of_new new (same ▸ member)
      obtain ⟨entry, found⟩ := Option.isSome_iff_exists.mp ((mem_names_iff named).mp member)
      obtain ⟨parent, hangs, nearest⟩ := linked.nearest other entry named found
      refine ⟨entry, parent, found, hangs, ?_, ?_⟩
      · rw [get?_register other ordered new, if_neg apart, found, Option.map_some,
          hung_if_met ordered member]
        simp only [scan, skips_iff hangs]
      · intro met
        have above := ((mem_met_iff ordered other).mp met).2
        rw [Text.utf8_bytes_length_lt_iff nearest.starts above.starts]
        exact shorter_iff_above new nearest above

/-- `né.a` comes after names that sort on both sides of its dot. The scan passes by all of these,
and the deeper of the two names it meets keeps the nearer parent. -/
theorem a_scan_passes_by_siblings :
    let registry := (State.run .initial [.register 0 "né", .register 0 "né.a.b.c",
      .register 0 "né.a.b", .register 0 "né.a-x", .register 0 "né.a/x", .register 0 "né.a0",
      .register 0 "né.aé.b"]).registry 0
    let scan := scanFor "né.a" registry.named
    let after := registry.register "né.a"
    let parentIn := fun (registry : Registry) name => (registry.get? name).bind Entry.parent
    registry.Reachable ∧ registry.isRegistered "né.a" = false ∧
      ((Dict.keys registry.named).Pairwise fun first second =>
        Text.utf8Bytes first < Text.utf8Bytes second) ∧
      scan.met = ["né.a.b", "né.a.b.c"] ∧
      (∀ other, other ∈ scan.met ↔ other ∈ registry.names ∧ IsAbove "né.a" other) ∧
      registry.names.map (parentIn registry) =
        [some "", some "né", some "né", some "né.a.b", some "né", some "né", some "né"] ∧
      registry.names.map (parentIn after) =
        [some "", some "né", some "né.a", some "né.a.b", some "né", some "né", some "né"] ∧
      ∃ entry parent, registry.get? "né.a.b" = some entry ∧ entry.parent = some parent ∧
        after.get? "né.a.b" = some
          (if "né.a.b" ∈ scan.met ∧
              (Text.utf8Bytes parent).length < (Text.utf8Bytes "né.a").length then
            { entry with parent := some "né.a" } else entry) := by
  intro registry scan after parentIn
  have reachable : registry.Reachable := ⟨_, 0, ⟨.initial, _, .inl rfl, rfl⟩, rfl⟩
  have new : registry.isRegistered "né.a" = false := by decide
  have ascending := (Text.ordered_iff_bytes_ascend registry.named).mp reachable.linked.ordered
  have met : scan.met = ["né.a.b", "né.a.b.c"] := by
    rw [(scan_covers "né.a" reachable.linked.ordered).met]
    decide
  obtain ⟨told, _, registered⟩ := scans_meet_exactly_the_names_below "né.a"
  obtain ⟨meets, _⟩ := told registry.named ascending
  obtain ⟨_, _, entries⟩ := registered registry reachable new
  obtain ⟨entry, parent, found, hangs, left, _⟩ := entries "né.a.b" (by decide)
  exact ⟨reachable, new, ascending, met, meets, by decide, by decide, entry, parent, found, hangs,
    left⟩

end Registry

end FunctionKit.Logging
