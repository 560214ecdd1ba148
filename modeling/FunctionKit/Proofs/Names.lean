import Mathlib.Data.List.Infix
import Mathlib.Data.String.Basic
import FunctionKit.Logging.Registry

/-!
# Dotted names

A name lies above another if the other starts with it and a dot. The names above one name are
told apart by their length alone, and of two of them the shorter lies above the longer. In the
order of texts the names below one name stand side by side.
-/

namespace FunctionKit.Logging

set_option autoImplicit false

/-- The first name is what stands before one of the dots of the second. -/
def IsAbove (upper name : String) : Prop :=
  ∃ rest, name = upper ++ "." ++ rest

theorem to_list_stem (upper : String) : (stem upper).toList = upper.toList ++ ['.'] := by
  simp [stem, String.toList_append]

theorem is_below_iff (name upper : String) : isBelow name upper = true ↔ IsAbove upper name := by
  unfold isBelow startsWith
  rw [List.isPrefixOf_iff_prefix]
  constructor
  · rintro ⟨rest, split⟩
    refine ⟨String.ofList rest, ?_⟩
    apply String.toList_injective
    simpa [stem, String.toList_append] using split.symm
  · rintro ⟨rest, rfl⟩
    exact ⟨rest.toList, by simp [stem, String.toList_append]⟩

theorem is_above_iff_starts (upper name : String) :
    IsAbove upper name ↔ upper.toList ++ ['.'] <+: name.toList := by
  rw [← is_below_iff, isBelow, startsWith, List.isPrefixOf_iff_prefix, to_list_stem]

namespace IsAbove

theorem shorter {upper name : String} (above : IsAbove upper name) :
    upper.length < name.length := by
  obtain ⟨rest, rfl⟩ := above
  simp only [String.length_append]
  have dot : ".".length = 1 := rfl
  omega

theorem starts {upper name : String} (above : IsAbove upper name) :
    upper.toList <+: name.toList :=
  (List.prefix_append _ _).trans ((is_above_iff_starts upper name).mp above)

theorem trans {upper middle name : String} (first : IsAbove upper middle)
    (second : IsAbove middle name) : IsAbove upper name := by
  rw [is_above_iff_starts] at first ⊢
  exact first.trans second.starts

theorem irrefl (name : String) : ¬IsAbove name name :=
  fun above => lt_irrefl _ above.shorter

/-- Of two names above the same name the shorter one lies above the longer one. -/
theorem of_shorter {upper middle name : String} (first : IsAbove upper name)
    (second : IsAbove middle name) (shorter : upper.length < middle.length) :
    IsAbove upper middle := by
  rw [is_above_iff_starts] at first ⊢
  apply List.prefix_of_prefix_length_le first second.starts
  simp only [List.length_append, List.length_singleton, String.length_toList]
  omega

/-- Names above the same name are told apart by their length. -/
theorem eq_of_length_eq {first second name : String} (firstAbove : IsAbove first name)
    (secondAbove : IsAbove second name) (sameLength : first.length = second.length) :
    first = second := by
  apply String.toList_injective
  have starts : first.toList <+: second.toList := by
    apply List.prefix_of_prefix_length_le firstAbove.starts secondAbove.starts
    simpa [String.length_toList] using sameLength.le
  exact starts.eq_of_length (by simpa [String.length_toList] using sameLength)

end IsAbove

theorem root_is_above_nothing_empty (upper : String) : ¬IsAbove upper rootName := by
  intro above
  have shorter := above.shorter
  simp [rootName] at shorter

theorem root_is_shorter {name : String} (named : name ≠ rootName) :
    rootName.length < name.length := by
  have filled : name.length ≠ 0 := fun empty => named (String.length_eq_zero_iff.mp empty)
  simp only [rootName, String.length_empty]
  omega

/-! ## The names in front of the dots -/

theorem mem_dotted_starts (start text : List Char) :
    start ∈ dottedStarts text ↔ start ++ ['.'] <+: text := by
  induction text generalizing start with
  | nil => simp [dottedStarts]
  | cons c rest ih =>
      cases start with
      | nil =>
          by_cases dot : c = '.'
          · simp [dottedStarts, dot]
          · have apart : '.' ≠ c := fun same => dot same.symm
            simp [dottedStarts, dot, apart]
      | cons first later =>
          have moved : first :: later ∈ dottedStarts (c :: rest) ↔
              c = first ∧ later ∈ dottedStarts rest := by
            by_cases dot : c = '.' <;> simp [dottedStarts, dot, and_comm, eq_comm]
          rw [moved, ih later, List.cons_append, List.cons_prefix_cons, eq_comm]

theorem dotted_starts_lengthen (text : List Char) :
    (dottedStarts text).Pairwise fun first second => first.length < second.length := by
  induction text with
  | nil => exact List.Pairwise.nil
  | cons c rest ih =>
      have longer : ((dottedStarts rest).map (c :: ·)).Pairwise
          fun first second => first.length < second.length := by
        rw [List.pairwise_map]
        exact ih.imp (by intro first second shorter; simpa using shorter)
      by_cases dot : c = '.'
      · simp only [dottedStarts, if_pos dot]
        apply List.Pairwise.cons _ longer
        intro start member
        obtain ⟨tail, _, rfl⟩ := List.mem_map.mp member
        simp
      · simpa only [dottedStarts, if_neg dot] using longer

theorem mem_names_above (upper name : String) : upper ∈ namesAbove name ↔ IsAbove upper name := by
  rw [is_above_iff_starts, ← mem_dotted_starts]
  unfold namesAbove
  rw [List.mem_map]
  constructor
  · rintro ⟨start, member, rfl⟩
    simpa using member
  · intro member
    exact ⟨upper.toList, by simpa using member, by simp⟩

theorem names_above_shorten (name : String) :
    (namesAbove name).Pairwise fun first second => second.length < first.length := by
  unfold namesAbove
  rw [List.pairwise_map, List.pairwise_reverse]
  apply (dotted_starts_lengthen name.toList).imp
  intro first second longer
  simpa using longer

/-! ## The order of texts -/

theorem not_before_start {start text : List Char} (starts : start <+: text) : ¬text < start := by
  induction start generalizing text with
  | nil => exact List.not_lt_nil _
  | cons c start ih =>
      obtain ⟨rest, rfl⟩ := starts
      rw [List.cons_append, List.cons_lt_cons_iff]
      rintro (before | ⟨_, before⟩)
      · exact lt_irrefl c before
      · exact ih (List.prefix_append start rest) before

/-- What stands between a start and a text with that start has the start as well. -/
theorem starts_of_between {start middle text : List Char} (starts : start <+: text)
    (notBefore : ¬middle < start) (before : middle < text) : start <+: middle := by
  induction start generalizing middle text with
  | nil => exact List.nil_prefix
  | cons c start ih =>
      obtain ⟨rest, rfl⟩ := starts
      cases middle with
      | nil => exact absurd (List.nil_lt_cons c start) notBefore
      | cons d middle =>
          rw [List.cons_lt_cons_iff] at notBefore
          rw [List.cons_append, List.cons_lt_cons_iff] at before
          rcases before with less | ⟨rfl, before⟩
          · exact absurd (Or.inl less) notBefore
          · have tailNotBefore : ¬middle < start := fun less => notBefore (Or.inr ⟨rfl, less⟩)
            rw [List.cons_prefix_cons]
            exact ⟨rfl, ih (List.prefix_append start rest) tailNotBefore before⟩

theorem not_before_stem {upper name : String} (above : IsAbove upper name) :
    ¬name < stem upper := by
  rw [String.lt_iff_toList_lt, to_list_stem]
  exact not_before_start ((is_above_iff_starts upper name).mp above)

/-- Names that are not before the stem and not below either come after every name below. -/
theorem not_above_of_after {upper middle name : String} (notBefore : ¬middle < stem upper)
    (outside : ¬IsAbove upper middle) (before : middle < name) : ¬IsAbove upper name := by
  intro above
  apply outside
  rw [is_above_iff_starts] at above ⊢
  rw [String.lt_iff_toList_lt, to_list_stem] at notBefore
  exact starts_of_between above notBefore (String.lt_iff_toList_lt.mp before)

end FunctionKit.Logging
