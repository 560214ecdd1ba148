import FunctionKit.ConfigRule.Compliance
import FunctionKit.Proofs.ByteOrder

/-!
# Which parameters an item satisfies

A parameter is satisfied by the tag it names. The verdict on the tags is told by the parameters that
are not, and it lists their tags in one order whatever order the parameters come in.
-/

namespace FunctionKit

set_option autoImplicit false

namespace Json

theorem as_object_iff {value : Json} {members : Fields} :
    asObject? value = some members ↔ value = .object members := by
  cases value <;> simp [asObject?]

theorem as_string_iff {value : Json} {text : String} :
    asString? value = some text ↔ value = .string text := by
  cases value <;> simp [asString?]

end Json

namespace ConfigRule

/-- The item has the tag that a parameter names, with its value unless that is empty. -/
def Satisfied (item : Fields) (parameter : String × String) : Prop :=
  ∃ tags actual, Dict.get? "tags" item = some (.object tags) ∧
    Dict.get? parameter.1 tags = some (.string actual) ∧
    (parameter.2 = "" ∨ actual = parameter.2)

theorem tag_value_iff {item : Fields} {tag actual : String} :
    tagValue? item tag = some actual ↔
      ∃ tags, Dict.get? "tags" item = some (.object tags) ∧
        Dict.get? tag tags = some (.string actual) := by
  unfold tagValue?
  simp only [Option.bind_eq_some_iff, Json.as_object_iff, Json.as_string_iff]
  constructor
  · rintro ⟨tags, ⟨_, held, rfl⟩, _, found, rfl⟩
    exact ⟨tags, held, found⟩
  · rintro ⟨tags, held, found⟩
    exact ⟨tags, ⟨_, held, rfl⟩, _, found, rfl⟩

theorem satisfies_iff (item : Fields) (parameter : String × String) :
    satisfies item parameter = true ↔ Satisfied item parameter := by
  unfold satisfies
  cases value : tagValue? item parameter.1 with
  | none =>
      simp only [Bool.false_eq_true, false_iff]
      rintro ⟨tags, actual, held, found, _⟩
      rw [tag_value_iff.mpr ⟨tags, held, found⟩] at value
      cases value
  | some actual =>
      obtain ⟨tags, held, found⟩ := tag_value_iff.mp value
      simp only [Bool.or_eq_true, decide_eq_true_eq]
      constructor
      · intro fits
        exact ⟨tags, actual, held, found, fits⟩
      · rintro ⟨otherTags, other, otherHeld, otherFound, fits⟩
        rw [tag_value_iff.mpr ⟨otherTags, otherHeld, otherFound⟩, Option.some.injEq] at value
        rwa [← value]

theorem unsatisfied_eq_nil_iff (item : Fields) (parameters : List (String × String)) :
    unsatisfied item parameters = [] ↔ ∀ parameter ∈ parameters, Satisfied item parameter := by
  unfold unsatisfied
  rw [← List.length_eq_zero_iff, List.length_mergeSort, List.length_eq_zero_iff,
    List.map_eq_nil_iff, List.filter_eq_nil_iff]
  simp only [Bool.not_eq_true', Bool.not_eq_false, satisfies_iff]

theorem check_tags_compliant_iff (item : Fields) (parameters : List (String × String)) :
    (checkTags item parameters).compliance = .compliant ↔
      ∀ parameter ∈ parameters, Satisfied item parameter := by
  rw [← unsatisfied_eq_nil_iff]
  unfold checkTags
  cases unsatisfied item parameters <;> simp

theorem check_tags_non_compliant_iff (item : Fields) (parameters : List (String × String)) :
    (checkTags item parameters).compliance = .nonCompliant ↔
      ∃ parameter ∈ parameters, ¬Satisfied item parameter := by
  have left : (checkTags item parameters).compliance = .nonCompliant ↔
      unsatisfied item parameters ≠ [] := by
    unfold checkTags
    cases unsatisfied item parameters <;> simp
  rw [left, ne_eq, unsatisfied_eq_nil_iff]
  simp only [not_forall, exists_prop]

theorem check_tags_applies (item : Fields) (parameters : List (String × String)) :
    (checkTags item parameters).compliance ≠ .notApplicable := by
  unfold checkTags
  cases unsatisfied item parameters <;> simp

/-! ## The tags in a verdict -/

theorem mem_unsatisfied (item : Fields) (parameters : List (String × String)) (tag : String) :
    tag ∈ unsatisfied item parameters ↔
      ∃ value, (tag, value) ∈ parameters ∧ ¬Satisfied item (tag, value) := by
  unfold unsatisfied
  rw [List.mem_mergeSort]
  simp only [List.mem_map, List.mem_filter, Bool.not_eq_true', Bool.eq_false_iff, ne_eq,
    satisfies_iff, Prod.exists, exists_and_right, exists_eq_right]

theorem unsatisfied_in_order (item : Fields) (parameters : List (String × String)) :
    (unsatisfied item parameters).Pairwise (· ≤ ·) := by
  have sorted : (unsatisfied item parameters).Pairwise fun first second =>
      decide (first ≤ second) = true := by
    apply List.pairwise_mergeSort
    · intro first second third
      simpa only [decide_eq_true_eq] using le_trans
    · intro first second
      simpa only [Bool.or_eq_true, decide_eq_true_eq] using le_total first second
  simpa only [decide_eq_true_eq] using sorted

theorem unsatisfied_ascend (item : Fields) {parameters : List (String × String)}
    (distinct : (Dict.keys parameters).Nodup) :
    (unsatisfied item parameters).Pairwise (· < ·) := by
  have once : (unsatisfied item parameters).Nodup := by
    unfold unsatisfied
    rw [(List.mergeSort_perm _ _).nodup_iff]
    exact distinct.sublist (List.filter_sublist.map Prod.fst)
  exact ((unsatisfied_in_order item parameters).and once).imp fun both =>
    lt_of_le_of_ne both.1 both.2

theorem unsatisfied_of_perm (item : Fields) {first second : List (String × String)}
    (perm : first.Perm second) : unsatisfied item first = unsatisfied item second := by
  apply List.Perm.eq_of_pairwise (fun _ _ _ _ => le_antisymm) (unsatisfied_in_order item first)
    (unsatisfied_in_order item second)
  unfold unsatisfied
  exact (List.mergeSort_perm _ _).trans
    (((perm.filter _).map Prod.fst).trans (List.mergeSort_perm _ _).symm)

/-- The tags are compliant, without a remark, iff all parameters are satisfied. Otherwise the remark
names the tags of exactly those parameters that are not, each once and in the order of their bytes.
The order of the parameters plays no part. -/
theorem verdicts_name_the_unsatisfied_tags (item : Fields) (parameters : List (String × String))
    (distinct : (Dict.keys parameters).Nodup) :
    (checkTags item parameters = ⟨.compliant, none⟩ ↔
        ∀ parameter ∈ parameters, Satisfied item parameter) ∧
      ((¬∀ parameter ∈ parameters, Satisfied item parameter) →
        ∃ tags : List String,
          checkTags item parameters =
              ⟨.nonCompliant,
                some ("missing or mismatched tags: " ++ String.intercalate ", " tags)⟩ ∧
            (tags.Pairwise fun first second => Text.utf8Bytes first < Text.utf8Bytes second) ∧
            ∀ tag, tag ∈ tags ↔
              ∃ value, (tag, value) ∈ parameters ∧ ¬Satisfied item (tag, value)) ∧
      ∀ reordered, reordered.Perm parameters →
        checkTags item reordered = checkTags item parameters := by
  refine ⟨?_, ?_, ?_⟩
  · rw [← unsatisfied_eq_nil_iff]
    unfold checkTags
    cases unsatisfied item parameters <;> simp
  · intro missing
    rw [← unsatisfied_eq_nil_iff] at missing
    refine ⟨unsatisfied item parameters, ?_, ?_, mem_unsatisfied item parameters⟩
    · unfold checkTags
      split
      · contradiction
      · rfl
    · exact (unsatisfied_ascend item distinct).imp fun before =>
        (Text.utf8_bytes_lt_iff _ _).mpr before
  · intro reordered perm
    unfold checkTags
    rw [unsatisfied_of_perm item perm]

/-- `owner` may have any value, `count` is there but is no text, `env` has another value and `zone`
is missing. -/
theorem three_tags_are_missing_or_different :
    let item : Fields := [("tags", .object [("count", .ofInt 3), ("env", .string "prod"),
      ("owner", .string "ops")])]
    let parameters := [("zone", ""), ("env", "test"), ("owner", ""), ("count", "")]
    (Dict.keys parameters).Nodup ∧ (¬∀ parameter ∈ parameters, Satisfied item parameter) ∧
      (∃ tags : List String,
        checkTags item parameters =
            ⟨.nonCompliant,
              some ("missing or mismatched tags: " ++ String.intercalate ", " tags)⟩ ∧
          "count" ∈ tags ∧ "owner" ∉ tags) ∧
      checkTags item parameters.reverse =
        ⟨.nonCompliant, some "missing or mismatched tags: count, env, zone"⟩ := by
  intro item parameters
  have distinct : (Dict.keys parameters).Nodup := by decide
  have judged : ∀ parameter, Satisfied item parameter ↔ satisfies item parameter = true :=
    fun parameter => (satisfies_iff item parameter).symm
  have missing : ¬∀ parameter ∈ parameters, Satisfied item parameter := by
    simp only [judged]
    decide
  obtain ⟨_, listed, reordered⟩ := verdicts_name_the_unsatisfied_tags item parameters distinct
  obtain ⟨tags, verdict, _, members⟩ := listed missing
  have count : "count" ∈ tags :=
    (members "count").mpr ⟨"", by decide, by rw [judged]; decide⟩
  have owner : "owner" ∉ tags := by
    rw [members]
    rintro ⟨value, member, unsatisfied⟩
    have free : value = "" := by simpa [parameters] using member
    rw [judged, free] at unsatisfied
    exact unsatisfied (by decide)
  have whole : checkTags item parameters =
      ⟨.nonCompliant, some "missing or mismatched tags: count, env, zone"⟩ := by
    simp [checkTags, unsatisfied, List.mergeSort, satisfies, tagValue?, Dict.get?, Json.asObject?,
      Json.asString?, Json.ofInt, item, parameters]
  exact ⟨distinct, missing, ⟨tags, verdict, count, owner⟩,
    (reordered _ (List.reverse_perm parameters)).trans whole⟩

end ConfigRule

end FunctionKit
