import FunctionKit.Logging.Record
import FunctionKit.Proofs.JsonLines

/-!
# What a structured line shows

A line is three layers: the bound keys, the keys of the record that are not null, and the four
standard keys. What is under a key comes from the uppermost layer that has it. Reading the line
gives the object back, and nothing in it can break the line.
-/

namespace FunctionKit

set_option autoImplicit false

namespace Logging.Record

/-- What a line shows under a key. -/
def shownAt (bound : Fields) (record : Record) (key : String) : Option Json :=
  if key = "level" then some (.string record.level.name)
  else if key = "location" then some (.string record.location)
  else if key = "message" then some (.string record.message)
  else if key = "timestamp" then some (.string record.timestamp.text)
  else
    match Dict.get? key record.extra with
    | some value => if value.isNull then Dict.get? key bound else some value
    | none => Dict.get? key bound

/-! ## The layers -/

theorem overlay_eq (bound extra : Fields) :
    overlay bound extra = Dict.insertAll (extra.filter fun entry => !entry.2.isNull) bound := by
  unfold overlay Dict.insertAll
  rw [List.foldl_filter]
  congr 1
  funext fields entry
  cases entry.2.isNull <;> rfl

/-- A record has each key once, so no entry is covered by a later one. -/
theorem get?_overlay (bound : Fields) {extra : Fields} (distinct : (Dict.keys extra).Nodup)
    (key : String) :
    Dict.get? key (overlay bound extra) =
      match Dict.get? key extra with
      | some value => if value.isNull then Dict.get? key bound else some value
      | none => Dict.get? key bound := by
  have shownOnce : (Dict.keys (extra.filter fun entry => !entry.2.isNull)).Nodup :=
    distinct.sublist (List.filter_sublist.map Prod.fst)
  rw [overlay_eq, Dict.get?_insert_all shownOnce, Dict.get?_filter distinct]
  cases Dict.get? key extra with
  | none => rfl
  | some value => cases null : value.isNull <;> simp [Option.filter, null]

theorem ordered_to_fields (record : Record) {bound : Fields} (ordered : Dict.Ordered bound) :
    Dict.Ordered (record.toFields bound) := by
  unfold toFields
  apply Dict.ordered_insert
  apply Dict.ordered_insert
  apply Dict.ordered_insert
  apply Dict.ordered_insert
  rw [overlay_eq]
  exact Dict.ordered_insert_all _ ordered

theorem get?_to_fields (bound : Fields) (record : Record)
    (distinct : (Dict.keys record.extra).Nodup) (key : String) :
    Dict.get? key (record.toFields bound) = record.shownAt bound key := by
  unfold toFields shownAt
  rw [Dict.get?_insert, Dict.get?_insert, Dict.get?_insert, Dict.get?_insert,
    get?_overlay bound distinct]
  by_cases level : key = "level"
  · subst level
    rfl
  by_cases location : key = "location"
  · subst location
    rfl
  by_cases message : key = "message"
  · subst message
    rfl
  by_cases timestamp : key = "timestamp"
  · subst timestamp
    rfl
  simp [level, location, message, timestamp, Ne.symm level, Ne.symm location, Ne.symm message,
    Ne.symm timestamp]

/-- Every value of a line is a bound one, one of the record, or text. -/
theorem values_of_to_fields (holds : Json → Prop) (texts : ∀ text, holds (.string text))
    {bound : Fields} {record : Record} (given : ∀ field ∈ bound ++ record.extra, holds field.2) :
    ∀ field ∈ record.toFields bound, holds field.2 := by
  obtain ⟨boundHold, extraHold⟩ := List.forall_mem_append.mp given
  have inserted : ∀ (key text : String) (fields : Fields), (∀ field ∈ fields, holds field.2) →
      ∀ field ∈ Dict.insert key (.string text) fields, holds field.2 := by
    intro key text fields held field member
    rcases Dict.mem_insert member with new | old
    · rw [new]
      exact texts text
    · exact held field old
  have overlaid : ∀ field ∈ overlay bound record.extra, holds field.2 := by
    intro field member
    rw [overlay_eq] at member
    rcases Dict.mem_insert_all member with own | old
    · exact extraHold field (List.mem_of_mem_filter own)
    · exact boundHold field old
  unfold toFields
  apply inserted
  apply inserted
  apply inserted
  apply inserted
  exact overlaid

/-! ## Lines -/

/-- Whatever is bound and whatever a record brings along, the line shows the record's own keys over
the bound ones and the standard keys over both, and is a single line. Reading it gives back what it
shows if the numbers are whole and the values are not nested too deeply. Objects have their keys in
order to begin with. -/
theorem lines_read_back_as_what_they_show (bound : Fields) (record : Record)
    (boundAscend : (Json.object bound).KeysAscend)
    (extraAscend : (Json.object record.extra).KeysAscend) :
    ∃ shown : Fields,
      (∀ key, Dict.get? key shown = record.shownAt bound key) ∧
      (Json.object shown).KeysAscend ∧
      (∀ other : Fields, Dict.Ordered other →
        (∀ key, Dict.get? key other = record.shownAt bound key) → other = shown) ∧
      record.structuredLine bound = (Json.object shown).compactText ∧
      (∀ c ∈ (record.structuredLine bound).toList, 0x20 ≤ c.toNat) ∧
      ((∀ field ∈ bound ++ record.extra, field.2.WholeNumbers ∧ field.2.nesting ≤ 126) →
        Json.read (record.structuredLine bound) = .ok (.object shown)) := by
  have distinct := Dict.keys_nodup extraAscend.ordered
  have ordered := ordered_to_fields record boundAscend.ordered
  have told := get?_to_fields bound record distinct
  have ascend : (Json.object (record.toFields bound)).KeysAscend := by
    have boundInside := ((Json.throughout_object_iff Json.KeysInOrder _).mp boundAscend).2
    have extraInside := ((Json.throughout_object_iff Json.KeysInOrder _).mp extraAscend).2
    have inside := values_of_to_fields (Json.Throughout Json.KeysInOrder)
      (fun text => (Json.throughout_string_iff Json.KeysInOrder text).mpr trivial)
      (List.forall_mem_append.mpr ⟨boundInside, extraInside⟩)
    apply (Json.throughout_object_iff Json.KeysInOrder _).mpr
    exact ⟨(Json.keys_in_order_iff _).mpr ordered, inside⟩
  refine ⟨record.toFields bound, told, ascend, ?_, rfl, ?_, ?_⟩
  · intro other otherOrdered alike
    apply Dict.eq_of_ordered ordered otherOrdered
    intro key
    rw [alike, told]
  · have clean := Json.render_no_control (.object (record.toFields bound))
    unfold structuredLine Json.compactText
    rw [String.toList_ofList]
    exact clean
  · intro given
    have whole := values_of_to_fields Json.WholeNumbers
      (fun text => (Json.throughout_string_iff Json.NumberFits text).mpr trivial)
      fun field member => (given field member).1
    have flat := values_of_to_fields (fun value => value.nesting ≤ 126)
      (fun _ => Nat.zero_le _) fun field member => (given field member).2
    have readable : Json.Readable Json.greatestDepth (.object (record.toFields bound)) :=
      { nested := (Json.nesting_object_le_iff _ 126).mpr flat
        ascend
        whole := (Json.throughout_object_iff Json.NumberFits _).mpr ⟨trivial, whole⟩ }
    have read := Json.read_document readable [] []
      (fun _ member => absurd member List.not_mem_nil)
      (fun _ member => absurd member List.not_mem_nil)
    rw [List.nil_append, List.append_nil] at read
    exact read

/-- The record's own key covers a bound one, its null key does not, and the break in the message
is escaped. -/
theorem a_message_with_a_break_reads_back :
    let bound : Fields := [("order", .object [("id", .number (.whole 7))]),
      ("service", .string "payments"), ("tenant", .string "blue")]
    let record : Record :=
      { level := .error, logger := "app", message := "no\n\"funds\"", location := "app.rs:7"
        timestamp := ⟨0, 0⟩
        extra := [("level", .string "TRACE"), ("service", .null), ("tenant", .array [.null])] }
    (Json.object bound).KeysAscend ∧ (Json.object record.extra).KeysAscend ∧
      (∀ field ∈ bound ++ record.extra, field.2.WholeNumbers ∧ field.2.nesting ≤ 126) ∧
      ∃ shown : Fields,
        Dict.get? "level" shown = some (.string "ERROR") ∧
        Dict.get? "message" shown = some (.string "no\n\"funds\"") ∧
        Dict.get? "service" shown = some (.string "payments") ∧
        Dict.get? "tenant" shown = some (.array [.null]) ∧
        (∀ c ∈ (record.structuredLine bound).toList, 0x20 ≤ c.toNat) ∧
        Json.read (record.structuredLine bound) = .ok (.object shown) := by
  intro bound record
  have boundAscend : (Json.object bound).KeysAscend := by
    simp [bound, Json.KeysAscend, Json.KeysInOrder]
    decide
  have extraAscend : (Json.object record.extra).KeysAscend := by
    simp [record, Json.KeysAscend, Json.KeysInOrder]
    decide
  have given : ∀ field ∈ bound ++ record.extra, field.2.WholeNumbers ∧ field.2.nesting ≤ 126 := by
    simp [bound, record, Json.WholeNumbers, Json.nesting, Json.nestingOfItems,
      Json.nestingOfMembers, Json.NumberFits, Number.IsWord, Number.Representable]
  obtain ⟨shown, told, _, _, _, clean, read⟩ :=
    lines_read_back_as_what_they_show bound record boundAscend extraAscend
  exact ⟨boundAscend, extraAscend, given, shown, told "level", told "message", told "service",
    told "tenant", clean, read given⟩

end Logging.Record

end FunctionKit
