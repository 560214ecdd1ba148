import FunctionKit.Proofs.Hierarchy

/-!
# The way up

From an entry the stored parents lead to the root by way of the registered names above it. The
way is said by names alone: the name, the registered names above it with the longest first, the
root.
-/

namespace FunctionKit.Logging.Registry

set_option autoImplicit false

def NotShorter (first second : String) : Prop :=
  second.length ≤ first.length

instance : DecidableRel NotShorter :=
  fun first second => inferInstanceAs (Decidable (second.length ≤ first.length))

instance : Std.Total NotShorter :=
  ⟨fun first second => Nat.le_total second.length first.length⟩

instance : IsTrans String NotShorter :=
  ⟨fun _ _ _ left right => Nat.le_trans right left⟩

/-- The registered names above a name, the longest first. -/
def uppers (registry : Registry) (name : String) : List String :=
  (registry.names.filter (isBelow name)).insertionSort NotShorter

/-- A name, the registered names above it and the root. -/
def chain (registry : Registry) (name : String) : List String :=
  if name = rootName then [rootName] else name :: registry.uppers name ++ [rootName]

/-- The names that the stored parents lead to, up to an entry that has none. -/
inductive WayUp (registry : Registry) : String → List String → Prop
  | arrives {name : String} {entry : Entry} (found : registry.get? name = some entry)
      (top : entry.parent = none) : WayUp registry name [name]
  | climbs {name upper : String} {entry : Entry} {way : List String}
      (found : registry.get? name = some entry) (parent : entry.parent = some upper)
      (onwards : WayUp registry upper way) : WayUp registry name (name :: way)

theorem mem_uppers (registry : Registry) (name upper : String) :
    upper ∈ registry.uppers name ↔ upper ∈ registry.names ∧ IsAbove upper name := by
  unfold uppers
  rw [List.mem_insertionSort, List.mem_filter, is_below_iff]

theorem uppers_shorten {registry : Registry} (ordered : Dict.Ordered registry.named)
    (name : String) :
    (registry.uppers name).Pairwise fun first second => second.length < first.length := by
  have sorted : (registry.uppers name).Pairwise NotShorter := List.pairwise_insertionSort _ _
  have distinct : (registry.uppers name).Nodup := by
    unfold uppers
    rw [(List.perm_insertionSort _ _).nodup_iff]
    exact (Dict.keys_nodup ordered).filter _
  apply (sorted.and distinct).imp_of_mem
  intro first second firstMember secondMember ⟨atMost, apart⟩
  have firstAbove := ((mem_uppers registry name first).mp firstMember).2
  have secondAbove := ((mem_uppers registry name second).mp secondMember).2
  apply lt_of_le_of_ne atMost
  exact fun sameLength => apart (firstAbove.eq_of_length_eq secondAbove sameLength.symm)

theorem nodup_of_shorten {names : List String}
    (shorten : names.Pairwise fun longer shorter => shorter.length < longer.length) :
    names.Nodup := by
  apply shorten.imp
  intro longer shorter less equal
  rw [equal] at less
  exact lt_irrefl _ less

/-- Names that get shorter are determined by which they are. -/
theorem eq_of_same_members {first second : List String}
    (firstShorten : first.Pairwise fun longer shorter => shorter.length < longer.length)
    (secondShorten : second.Pairwise fun longer shorter => shorter.length < longer.length)
    (same : ∀ name, name ∈ first ↔ name ∈ second) : first = second := by
  have firstDistinct := nodup_of_shorten firstShorten
  have secondDistinct := nodup_of_shorten secondShorten
  have perm : first.Perm second :=
    (List.perm_ext_iff_of_nodup firstDistinct secondDistinct).mpr same
  apply perm.eq_of_pairwise _ firstShorten secondShorten
  intro left right _ _ less more
  omega

theorem uppers_of_nearest {registry : Registry} (linked : registry.Linked) {name upper : String}
    (nearest : NearestAbove registry.names name upper) :
    registry.uppers name ++ [rootName] = registry.chain upper := by
  cases nearest with
  | listed member above longest =>
      have named := linked.not_root member
      have split : registry.uppers name = upper :: registry.uppers upper := by
        apply eq_of_same_members (uppers_shorten linked.ordered name)
        · apply List.Pairwise.cons _ (uppers_shorten linked.ordered upper)
          intro other otherMember
          exact ((mem_uppers registry upper other).mp otherMember).2.shorter
        · intro other
          rw [List.mem_cons, mem_uppers, mem_uppers]
          constructor
          · rintro ⟨known, otherAbove⟩
            rcases (longest other known otherAbove).lt_or_eq with less | sameLength
            · exact Or.inr ⟨known, otherAbove.of_shorter above less⟩
            · exact Or.inl (otherAbove.eq_of_length_eq above sameLength)
          · rintro (rfl | ⟨known, otherAbove⟩)
            · exact ⟨member, above⟩
            · exact ⟨known, otherAbove.trans above⟩
      rw [split, chain, if_neg named]
  | top alone =>
      have nobody : registry.uppers name = [] := by
        apply List.eq_nil_iff_forall_not_mem.mpr
        intro other member
        obtain ⟨known, above⟩ := (mem_uppers registry name other).mp member
        exact alone other known above
      rw [nobody, chain, if_pos rfl]
      rfl

theorem chain_of_nearest {registry : Registry} (linked : registry.Linked) {name upper : String}
    (named : name ≠ rootName) (nearest : NearestAbove registry.names name upper) :
    registry.chain name = name :: registry.chain upper := by
  rw [chain, if_neg named, List.cons_append, uppers_of_nearest linked nearest]

theorem nearest_is_registered {registry : Registry} (linked : registry.Linked)
    {name upper : String} (nearest : NearestAbove registry.names name upper) :
    registry.isRegistered upper = true := by
  cases nearest with
  | listed member _ _ =>
      have named := linked.not_root member
      exact (mem_names_iff named).mp member
  | top _ => rfl

/-- Induction along the stored parents: what holds of the root and is handed down from the nearest
registered name above holds of every entry. -/
theorem entry_induction {registry : Registry} (linked : registry.Linked)
    {motive : String → Prop}
    (top : registry.root.parent = none → motive rootName)
    (below : ∀ name upper entry, name ≠ rootName → registry.get? name = some entry →
      entry.parent = some upper → NearestAbove registry.names name upper →
      registry.isRegistered upper = true → motive upper → motive name)
    (name : String) (registered : registry.isRegistered name = true) : motive name := by
  -- a parent is shorter than its entry, whatever the order in which they were registered
  induction size : name.length using Nat.strongRecOn generalizing name with
  | ind length ih =>
      by_cases atRoot : name = rootName
      · rw [atRoot]
        exact top linked.root_on_top
      · obtain ⟨entry, found⟩ := Option.isSome_iff_exists.mp registered
        obtain ⟨upper, parent, nearest⟩ := linked.nearest name entry atRoot found
        have upperRegistered := nearest_is_registered linked nearest
        have shorter := nearest.shorter atRoot
        exact below name upper entry atRoot found parent nearest upperRegistered
          (ih upper.length (by omega) upper upperRegistered rfl)

theorem way_up_is_chain {registry : Registry} (linked : registry.Linked) (name : String)
    (registered : registry.isRegistered name = true) :
    registry.WayUp name (registry.chain name) := by
  apply entry_induction linked ?_ ?_ name registered
  · intro top
    rw [chain, if_pos rfl]
    have found : registry.get? rootName = some registry.root := if_pos rfl
    exact .arrives found top
  · intro name upper entry named found parent nearest _ onwards
    rw [chain_of_nearest linked named nearest]
    exact .climbs found parent onwards

theorem chain_shortens {registry : Registry} (linked : registry.Linked) (name : String) :
    (registry.chain name).Pairwise fun longer shorter => shorter.length < longer.length := by
  by_cases atRoot : name = rootName
  · rw [chain, if_pos atRoot]
    exact List.pairwise_singleton _ _
  · rw [chain, if_neg atRoot, List.cons_append, List.pairwise_cons, List.pairwise_append]
    refine ⟨?_, uppers_shorten linked.ordered name, List.pairwise_singleton _ _, ?_⟩
    · intro upper member
      rcases List.mem_append.mp member with between | last
      · exact ((mem_uppers registry name upper).mp between).2.shorter
      · rw [List.mem_singleton.mp last]
        exact root_is_shorter atRoot
    · intro upper between last atEnd
      have known := ((mem_uppers registry name upper).mp between).1
      rw [List.mem_singleton.mp atEnd]
      exact root_is_shorter (linked.not_root known)

/-! ## The entries on the way -/

def entryAt (registry : Registry) (name : String) : Option (String × Entry) :=
  (registry.get? name).map fun entry => (name, entry)

/-- A bound above the length of the name never cuts the way short. -/
theorem climb_eq_chain {registry : Registry} (linked : registry.Linked) (name : String)
    (registered : registry.isRegistered name = true) :
    ∀ bound, name.length < bound →
      registry.climb bound name = (registry.chain name).filterMap registry.entryAt := by
  apply entry_induction linked ?_ ?_ name registered
  · intro top bound enough
    obtain ⟨bound, rfl⟩ := Nat.exists_eq_succ_of_ne_zero (Nat.ne_zero_of_lt enough)
    simp [climb, chain, entryAt, get?, top]
  · intro name upper entry named found parent nearest _ onwards bound enough
    obtain ⟨bound, rfl⟩ := Nat.exists_eq_succ_of_ne_zero (Nat.ne_zero_of_lt enough)
    have shorter := nearest.shorter named
    rw [chain_of_nearest linked named nearest,
      List.filterMap_cons_some (show registry.entryAt name = some (name, entry) by
        simp [entryAt, found]),
      ← onwards bound (by omega)]
    simp [climb, found, parent]

theorem lineage_eq_chain {registry : Registry} (linked : registry.Linked) {name : String}
    (registered : registry.isRegistered name = true) :
    registry.lineage name = (registry.chain name).filterMap registry.entryAt :=
  climb_eq_chain linked name registered _ (Nat.lt_succ_self _)

theorem chain_is_registered {registry : Registry} (linked : registry.Linked) {name : String}
    (registered : registry.isRegistered name = true) :
    ∀ upper ∈ registry.chain name, registry.isRegistered upper = true := by
  apply entry_induction linked ?_ ?_ name registered
  · intro _ upper member
    rw [chain, if_pos rfl, List.mem_singleton] at member
    rw [member]
    rfl
  · intro name upper entry named found _ nearest _ onwards other member
    rw [chain_of_nearest linked named nearest, List.mem_cons] at member
    rcases member with same | later
    · rw [same, isRegistered, found]
      rfl
    · exact onwards other later

theorem names_of_entries {registry : Registry} {names : List String}
    (registered : ∀ name ∈ names, registry.isRegistered name = true) :
    (names.filterMap registry.entryAt).map Prod.fst = names := by
  induction names with
  | nil => rfl
  | cons name rest ih =>
      obtain ⟨entry, found⟩ :=
        Option.isSome_iff_exists.mp (registered name List.mem_cons_self)
      have here : registry.entryAt name = some (name, entry) := by simp [entryAt, found]
      rw [List.filterMap_cons_some here, List.map_cons,
        ih fun other member => registered other (List.mem_cons_of_mem _ member)]

theorem lineage_names {registry : Registry} (linked : registry.Linked) {name : String}
    (registered : registry.isRegistered name = true) :
    (registry.lineage name).map Prod.fst = registry.chain name := by
  rw [lineage_eq_chain linked registered, names_of_entries (chain_is_registered linked registered)]

end FunctionKit.Logging.Registry
