import FunctionKit.Proofs.Checks
import FunctionKit.Proofs.JsonDocuments

/-!
# Documents inside a request

The document of the invoking event is text in a field. A request reads back whatever document was
written there, and the keys of the document tell what triggered the request. The keys count, not
what is under them: a null item still makes a change, one without an object to look at.
-/

namespace FunctionKit.ConfigRule

set_option autoImplicit false

def Trigger.kind : Trigger → Kind
  | .change _ => .change
  | .oversizedChange _ => .oversized
  | .schedule _ => .periodic

/-- The object that a key stands for, or an error that names the key. -/
def objectUnder (key : String) : Json → Except FieldError Fields
  | .object members => .ok members
  | _ => .error (.wrongType key .object)

/-- A trigger is all that a document tells. -/
structure ToldBy (document : Fields) (trigger : Trigger) : Prop where
  read_back : trigger.document.fields = document
  change : trigger.kind = .change ↔ "configurationItem" ∈ Dict.keys document
  oversized : trigger.kind = .oversized ↔
    "configurationItemSummary" ∈ Dict.keys document ∧ "configurationItem" ∉ Dict.keys document
  periodic : trigger.kind = .periodic ↔
    "configurationItemSummary" ∉ Dict.keys document ∧ "configurationItem" ∉ Dict.keys document
  item : ∀ value, Dict.get? "configurationItem" document = some value →
    trigger.subject = objectUnder "configurationItem" value
  summary : "configurationItem" ∉ Dict.keys document →
    ∀ value, Dict.get? "configurationItemSummary" document = some value →
      trigger.subject = objectUnder "configurationItemSummary" value
  whole : "configurationItemSummary" ∉ Dict.keys document →
    "configurationItem" ∉ Dict.keys document → trigger.subject = .ok document
  never_missing : ∀ key, trigger.subject ≠ .error (.missing key)

section Documents

variable {document : Fields} {key : String} {value : Json}

theorem object_of_get? (found : Dict.get? key document = some value) :
    (Payload.mk document).object key = objectUnder key value := by
  unfold Payload.object Payload.field Payload.get?
  rw [found]
  cases value <;> rfl

theorem object_under_never_missing (key other : String) (value : Json) :
    objectUnder key value ≠ .error (.missing other) := by
  cases value <;> simp [objectUnder]

theorem trigger_with_item (member : "configurationItem" ∈ Dict.keys document) :
    Trigger.ofDocument ⟨document⟩ = .change ⟨document⟩ := by
  have present := (Dict.contains_iff_mem_keys _ _).mpr member
  exact if_pos present

theorem trigger_with_summary (absent : "configurationItem" ∉ Dict.keys document)
    (member : "configurationItemSummary" ∈ Dict.keys document) :
    Trigger.ofDocument ⟨document⟩ = .oversizedChange ⟨document⟩ := by
  rw [← Dict.contains_iff_mem_keys] at absent
  have present := (Dict.contains_iff_mem_keys _ _).mpr member
  exact (if_neg absent).trans (if_pos present)

theorem trigger_without_either (absent : "configurationItem" ∉ Dict.keys document)
    (noSummary : "configurationItemSummary" ∉ Dict.keys document) :
    Trigger.ofDocument ⟨document⟩ = .schedule ⟨document⟩ := by
  rw [← Dict.contains_iff_mem_keys] at absent noSummary
  exact (if_neg absent).trans (if_neg noSummary)

end Documents

/-- Three cases, by the keys: an item, only a summary, neither. -/
theorem trigger_is_told_by_document (document : Fields) :
    ToldBy document (Trigger.ofDocument ⟨document⟩) := by
  by_cases item : "configurationItem" ∈ Dict.keys document
  · rw [trigger_with_item item]
    have selected : ∀ value, Dict.get? "configurationItem" document = some value →
        (Trigger.change ⟨document⟩).subject = objectUnder "configurationItem" value :=
      fun value found => object_of_get? found
    obtain ⟨value, found⟩ := (Dict.mem_keys_iff_exists _ _).mp item
    exact
      { read_back := rfl
        change := by simp [Trigger.kind, item]
        oversized := by simp [Trigger.kind, item]
        periodic := by simp [Trigger.kind, item]
        item := selected
        summary := fun absent => absurd item absent
        whole := fun _ absent => absurd item absent
        never_missing := by
          intro key
          rw [selected value found]
          exact object_under_never_missing _ key value }
  by_cases summary : "configurationItemSummary" ∈ Dict.keys document
  · rw [trigger_with_summary item summary]
    have selected : ∀ value, Dict.get? "configurationItemSummary" document = some value →
        (Trigger.oversizedChange ⟨document⟩).subject =
          objectUnder "configurationItemSummary" value :=
      fun value found => object_of_get? found
    obtain ⟨value, found⟩ := (Dict.mem_keys_iff_exists _ _).mp summary
    exact
      { read_back := rfl
        change := by simp [Trigger.kind, item]
        oversized := by simp [Trigger.kind, item, summary]
        periodic := by simp [Trigger.kind, summary]
        item := fun value found =>
          absurd ((Dict.mem_keys_iff_exists _ _).mpr ⟨value, found⟩) item
        summary := fun _ => selected
        whole := fun absent _ => absurd summary absent
        never_missing := by
          intro key
          rw [selected value found]
          exact object_under_never_missing _ key value }
  · rw [trigger_without_either item summary]
    exact
      { read_back := rfl
        change := by simp [Trigger.kind, item]
        oversized := by simp [Trigger.kind, summary]
        periodic := by simp [Trigger.kind, item, summary]
        item := fun value found =>
          absurd ((Dict.mem_keys_iff_exists _ _).mpr ⟨value, found⟩) item
        summary := fun _ value found =>
          absurd ((Dict.mem_keys_iff_exists _ _).mpr ⟨value, found⟩) summary
        whole := fun _ _ => rfl
        never_missing := by simp [Trigger.subject] }

/-! ## Written documents -/

theorem trigger_of_source {fields document : Fields} {source : String}
    (embedded : Dict.get? "invokingEvent" fields = some (.string source))
    (read : Json.read source = .ok (.object document)) :
    (Request.ofFields fields).trigger = .ok (Trigger.ofDocument ⟨document⟩) := by
  have text : textOf (.object fields) "invokingEvent" = some source := by
    have found : fieldOf (.object fields) "invokingEvent" = some (.string source) := embedded
    rw [textOf, found]
    rfl
  have told : documentOf (.object fields) = some document := by
    rw [documentOf, text, Option.bind_some, read]
    rfl
  rw [trigger_eq, event_document_ok_iff.mpr told]
  rfl

/-- Whatever else a request holds, it reads back the document that was written into it, gaps around
it or not, and the trigger is what that document tells. -/
theorem written_documents_are_read_back (fields document : Fields)
    (ascend : (Json.object document).KeysAscend) (whole : (Json.object document).WholeNumbers)
    (nested : (Json.object document).nesting ≤ 127) (before after : List Char)
    (gapsBefore : ∀ c ∈ before, Json.isGap c = true) (gapsAfter : ∀ c ∈ after, Json.isGap c = true)
    (embedded : Dict.get? "invokingEvent" fields =
      some (.string (String.ofList before ++ (Json.object document).compactText ++
        String.ofList after))) :
    ∃ trigger, (Request.ofFields fields).trigger = .ok trigger ∧ ToldBy document trigger := by
  have readable : Json.Readable Json.greatestDepth (.object document) := ⟨nested, ascend, whole⟩
  have read := Json.read_document readable before after gapsBefore gapsAfter
  have joined : String.ofList before ++ (Json.object document).compactText ++ String.ofList after =
      String.ofList (before ++ Json.render (.object document) ++ after) := by
    rw [Json.compactText, ← String.ofList_append, ← String.ofList_append]
  rw [joined] at embedded
  exact ⟨_, trigger_of_source embedded read, trigger_is_told_by_document document⟩

/-- A null item with a summary next to it, and a line break behind the document. -/
theorem a_null_item_is_a_change_without_an_object :
    let document : Fields := [("configurationItem", .null),
      ("configurationItemSummary", .object [("size", .number (.whole 18446744073709551615))])]
    let fields : Fields := [("invokingEvent", .string (String.ofList [] ++
      (Json.object document).compactText ++ String.ofList ['\n'])), ("version", .bool true)]
    (Json.object document).KeysAscend ∧ (Json.object document).WholeNumbers ∧
      (Json.object document).nesting ≤ 127 ∧
      ∃ trigger, (Request.ofFields fields).trigger = .ok trigger ∧
        trigger.document.fields = document ∧ trigger.kind = .change ∧
        trigger.subject = .error (.wrongType "configurationItem" .object) := by
  intro document fields
  have ascend : (Json.object document).KeysAscend := by
    simp [document, Json.KeysAscend, Json.KeysInOrder]
    decide
  have whole : (Json.object document).WholeNumbers := by
    simp [document, Json.WholeNumbers, Json.NumberFits, Number.IsWord, Number.Representable]
  have nested : (Json.object document).nesting ≤ 127 := by decide
  have gapsBefore : ∀ c ∈ ([] : List Char), Json.isGap c = true :=
    fun _ member => absurd member List.not_mem_nil
  have gapsAfter : ∀ c ∈ ['\n'], Json.isGap c = true := List.forall_mem_singleton.mpr rfl
  obtain ⟨trigger, read, told⟩ := written_documents_are_read_back fields document ascend whole
    nested [] ['\n'] gapsBefore gapsAfter rfl
  exact ⟨ascend, whole, nested, trigger, read, told.read_back, told.change.mpr (by decide),
    told.item .null rfl⟩

end FunctionKit.ConfigRule
