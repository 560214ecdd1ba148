import FunctionKit.ConfigRule.Request
import FunctionKit.Proofs.Dictionaries

/-!
# Two routes to a request

The typed route checks all ten fields at once and passes over the rest. It keeps the known keys
that are not null, so what is looked up is the same as on the untyped route. Only a null text field
makes a difference: it is missing on the typed route and of the wrong type on the other.
-/

namespace FunctionKit.ConfigRule

set_option autoImplicit false

/-- Nothing, null, or text. -/
inductive OptionalText : Option Json → Prop
  | absent : OptionalText none
  | null : OptionalText (some .null)
  | text (held : String) : OptionalText (some (.string held))

theorem OptionalText.held_as_text {held : Option Json} (optional : OptionalText held) :
    ((some (Json.ofOption (held.bind Json.asString?))).filter fun value => !value.isNull) =
      held.filter fun value => !value.isNull := by
  cases optional <;> rfl

theorem OptionalText.text_or_nothing {held : Option Json} (optional : OptionalText held) :
    (held.filter fun value => !value.isNull) = none ∨
      ∃ text, (held.filter fun value => !value.isNull) = some (.string text) := by
  cases optional with
  | absent => exact Or.inl rfl
  | null => exact Or.inl rfl
  | text content => exact Or.inr ⟨content, rfl⟩

/-- What the typed route asks of a payload. -/
structure Typable (fields : Fields) : Prop where
  texts : ∀ field : TextField, OptionalText (Dict.get? field.key fields)
  flag : ∃ leftScope, Dict.get? leftScopeKey fields = some (.bool leftScope)

/-- The known keys that are not null. -/
def knownFields (fields : Fields) : Fields :=
  fields.filter fun entry => requestKeys.contains entry.1 && !entry.2.isNull

/-- The outcomes of the two routes are the same, unless the field they look up is null. -/
structure SameUnlessNull {α : Type} (fields : Fields) (key : String)
    (typed untyped : Except FieldError α) : Prop where
  same : Dict.get? key fields ≠ some .null → typed = untyped
  null : Dict.get? key fields = some .null →
    typed = .error (.missing key) ∧ untyped = .error (.wrongType key .text)

/-! ## The fields of a typed request -/

theorem request_keys_perm :
    requestKeys.Perm (leftScopeKey :: TextField.all.map TextField.key) := by
  decide

theorem TextField.mem_all (field : TextField) : field ∈ TextField.all := by
  cases field <;> decide

theorem mem_request_keys_iff (key : String) :
    key ∈ requestKeys ↔ key = leftScopeKey ∨ ∃ field : TextField, field.key = key := by
  rw [request_keys_perm.mem_iff, List.mem_cons, List.mem_map]
  simp only [TextField.mem_all, true_and]

namespace TypedRequest

theorem keys_of_members (request : TypedRequest) :
    Dict.keys request.members = leftScopeKey :: TextField.all.map TextField.key := by
  simp [members, Dict.keys, Function.comp_def]

theorem members_once (request : TypedRequest) : (Dict.keys request.members).Nodup := by
  rw [keys_of_members]
  decide

theorem get?_members (request : TypedRequest) (field : TextField) :
    Dict.get? field.key request.members = some (.ofOption (request.text field)) := by
  cases field <;> rfl

theorem get?_to_fields (request : TypedRequest) (key : String) :
    Dict.get? key request.toFields =
      (Dict.get? key request.members).filter fun value => !value.isNull := by
  have ordered : Dict.Ordered request.written := Dict.ordered_of_pairs _
  rw [toFields, Dict.get?_filter (Dict.keys_nodup ordered), written,
    Dict.get?_of_pairs request.members_once]

/-! ## What is accepted -/

theorem is_optional_text_iff (held : Option Json) :
    isOptionalText held = true ↔ OptionalText held := by
  constructor
  · intro accepted
    cases held with
    | none => exact .absent
    | some value =>
        cases value with
        | null => exact .null
        | string text => exact .text text
        | bool | number | array | object => cases accepted
  · intro optional
    cases optional <;> rfl

theorem texts_accepted_iff (fields : Fields) :
    (TextField.all.all fun field => isOptionalText (Dict.get? field.key fields)) = true ↔
      ∀ field : TextField, OptionalText (Dict.get? field.key fields) := by
  simp [TextField.mem_all, is_optional_text_iff]

/-- A typed request that was made from fields. -/
structure MadeFrom (fields : Fields) (request : TypedRequest) : Prop where
  optional : ∀ field : TextField, OptionalText (Dict.get? field.key fields)
  flag : Dict.get? leftScopeKey fields = some (.bool request.leftScope)
  text : ∀ field, request.text field = (Dict.get? field.key fields).bind Json.asString?

theorem of_fields_of_typable {fields : Fields} {leftScope : Bool}
    (optional : ∀ field : TextField, OptionalText (Dict.get? field.key fields))
    (flag : Dict.get? leftScopeKey fields = some (.bool leftScope)) :
    ofFields? fields =
      some ⟨fun field => (Dict.get? field.key fields).bind Json.asString?, leftScope⟩ := by
  unfold ofFields?
  rw [if_pos ((texts_accepted_iff fields).mpr optional), flag]

theorem made_from_of_fields {fields : Fields} {request : TypedRequest}
    (accepted : ofFields? fields = some request) : MadeFrom fields request := by
  have typable : Typable fields := by
    unfold ofFields? at accepted
    split_ifs at accepted with texts
    have optional := (texts_accepted_iff fields).mp texts
    cases held : Dict.get? leftScopeKey fields with
    | none =>
        rw [held] at accepted
        cases accepted
    | some value =>
        cases value with
        | bool leftScope => exact ⟨optional, leftScope, held⟩
        | null | number | string | array | object =>
            rw [held] at accepted
            cases accepted
  obtain ⟨leftScope, flag⟩ := typable.flag
  rw [of_fields_of_typable typable.texts flag, Option.some.injEq] at accepted
  rw [← accepted]
  exact ⟨typable.texts, flag, fun _ => rfl⟩

theorem accepted_iff_typable (fields : Fields) :
    (ofJson? (.object fields)).isSome = true ↔ Typable fields := by
  constructor
  · intro accepted
    obtain ⟨request, made⟩ := Option.isSome_iff_exists.mp accepted
    have made := made_from_of_fields made
    exact ⟨made.optional, request.leftScope, made.flag⟩
  · intro typable
    obtain ⟨leftScope, flag⟩ := typable.flag
    have made := of_fields_of_typable typable.texts flag
    rw [show ofJson? (.object fields) = ofFields? fields from rfl, made]
    rfl

/-! ## What is kept -/

section Kept

variable {fields : Fields} {request : TypedRequest}

/-- A known key holds what it held, unless that was null. -/
theorem get?_of_made_from (made : MadeFrom fields request) {key : String}
    (known : key ∈ requestKeys) :
    Dict.get? key request.toFields =
      (Dict.get? key fields).filter fun value => !value.isNull := by
  rw [get?_to_fields]
  rcases (mem_request_keys_iff key).mp known with flag | text
  · rw [flag, made.flag]
    rfl
  · obtain ⟨field, named⟩ := text
    rw [← named, get?_members, made.text]
    exact (made.optional field).held_as_text

theorem fields_of_made_from (ordered : Dict.Ordered fields) (made : MadeFrom fields request) :
    request.toFields = knownFields fields := by
  have knownOrdered : Dict.Ordered (knownFields fields) := Dict.ordered_filter _ ordered
  have keptOrdered : Dict.Ordered request.toFields :=
    Dict.ordered_filter _ (Dict.ordered_of_pairs _)
  apply Dict.eq_of_ordered knownOrdered keptOrdered
  intro key
  rw [knownFields, Dict.get?_filter (Dict.keys_nodup ordered)]
  by_cases known : key ∈ requestKeys
  · rw [get?_of_made_from made known]
    simp [known]
  · have unwritten : key ∉ Dict.keys request.members := by
      rw [keys_of_members, ← request_keys_perm.mem_iff]
      exact known
    rw [get?_to_fields, Dict.get?_of_not_mem unwritten]
    cases Dict.get? key fields <;> simp [known, Option.filter]

end Kept

end TypedRequest

/-! ## What is looked up -/

section LookUps

variable {α β : Type} {fields : Fields} {key : String}

theorem text_of_absent {payload : Payload} (absent : payload.get? key = none) :
    payload.text key = .error (.missing key) := by
  unfold Payload.text Payload.field
  rw [absent]

theorem text_of_null {payload : Payload} (null : payload.get? key = some .null) :
    payload.text key = .error (.wrongType key .text) := by
  unfold Payload.text Payload.field
  rw [null]
  rfl

theorem field_of_same {first second : Payload} (same : first.get? key = second.get? key)
    (expected : FieldType) (view : Json → Option α) :
    first.field key expected view = second.field key expected view := by
  unfold Payload.field
  rw [same]

theorem filter_not_null_of_ne {held : Option Json} (other : held ≠ some .null) :
    (held.filter fun value => !value.isNull) = held := by
  cases held with
  | none => rfl
  | some value =>
      cases value with
      | null => exact absurd rfl other
      | bool | number | string | array | object => rfl

/-- What goes on with the text of a field goes on alike. -/
theorem SameUnlessNull.bind {typed untyped : Except FieldError α}
    (alike : SameUnlessNull fields key typed untyped) (next : α → Except FieldError β) :
    SameUnlessNull fields key (typed.bind next) (untyped.bind next) where
  same := by
    intro other
    rw [alike.same other]
  null := by
    intro null
    obtain ⟨missing, wrong⟩ := alike.null null
    rw [missing, wrong]
    exact ⟨rfl, rfl⟩

def readInto {α : Type} (key : String) (reader : String → Except Json.ReadError α)
    (source : String) : Except FieldError α :=
  match reader source with
  | .error fault => .error (.unreadable key fault)
  | .ok value => .ok value

def readTrigger (source : String) : Except FieldError Trigger :=
  match readInto TextField.invokingEvent.key Json.read source with
  | .error fault => .error fault
  | .ok (.object fields) => .ok (Trigger.ofDocument ⟨fields⟩)
  | .ok _ => .error (.wrongType TextField.invokingEvent.key .document)

theorem document_of_text (payload : Payload) (key : String)
    (reader : String → Except Json.ReadError α) :
    payload.document key reader = (payload.text key).bind (readInto key reader) := by
  unfold Payload.document
  cases payload.text key <;> rfl

theorem trigger_of_text (request : Request) :
    request.trigger = (request.text .invokingEvent).bind readTrigger := by
  unfold Request.trigger Request.text
  rw [document_of_text]
  cases request.payload.text TextField.invokingEvent.key <;> rfl

theorem rule_parameters_of_text (request : Request) :
    request.ruleParameters =
      (request.text .ruleParameters).bind
        (readInto TextField.ruleParameters.key Json.readStrings) :=
  document_of_text _ _ _

end LookUps

section Routes

variable {fields : Fields} {typed : TypedRequest}

theorem fields_of_to_request (typed : TypedRequest) :
    typed.toRequest.payload.fields = typed.toFields := by
  rw [TypedRequest.toRequest, Request.ofFields]

/-- A look-up on the typed route finds what is not null. -/
theorem get?_of_to_request (made : typed.MadeFrom fields) {key : String}
    (known : key ∈ requestKeys) :
    typed.toRequest.payload.get? key =
      (Dict.get? key fields).filter fun value => !value.isNull := by
  rw [Payload.get?, fields_of_to_request, TypedRequest.get?_of_made_from made known]

theorem texts_alike (made : typed.MadeFrom fields) (field : TextField) :
    SameUnlessNull fields field.key (typed.toRequest.text field)
      ((Request.ofFields fields).text field) := by
  have known := (mem_request_keys_iff field.key).mpr (Or.inr ⟨field, rfl⟩)
  have held := get?_of_to_request made known
  constructor
  · intro other
    rw [filter_not_null_of_ne other] at held
    exact field_of_same held .text Json.asString?
  · intro null
    rw [null] at held
    exact ⟨text_of_absent held, text_of_null null⟩

theorem flags_alike (made : typed.MadeFrom fields) :
    typed.toRequest.leftScope = .ok typed.leftScope ∧
      (Request.ofFields fields).leftScope = .ok typed.leftScope := by
  have known := (mem_request_keys_iff leftScopeKey).mpr (Or.inl rfl)
  have held := get?_of_to_request made known
  have flag : (Payload.mk fields).flag leftScopeKey = .ok typed.leftScope := by
    unfold Payload.flag Payload.field Payload.get?
    rw [made.flag]
    rfl
  rw [made.flag] at held
  exact ⟨(field_of_same (held.trans made.flag.symm) .flag Json.asBool?).trans flag, flag⟩

/-- A text field of a typed request is there as text or not at all. -/
theorem typed_text_never_wrong (made : typed.MadeFrom fields) (field : TextField) (key : String)
    (expected : FieldType) :
    typed.toRequest.text field ≠ .error (.wrongType key expected) := by
  have known := (mem_request_keys_iff field.key).mpr (Or.inr ⟨field, rfl⟩)
  have held := get?_of_to_request made known
  have shape := (made.optional field).text_or_nothing
  rw [← held] at shape
  rcases shape with absent | present
  · have missing : typed.toRequest.text field = .error (.missing field.key) :=
      text_of_absent absent
    simp [missing]
  · obtain ⟨content, present⟩ := present
    have found : typed.toRequest.text field = .ok content := by
      unfold Request.text Payload.text Payload.field
      rw [present]
      rfl
    simp [found]

end Routes

/-- The typed route takes an object if each text field is absent, null or text and the flag is a
flag. It keeps the known keys that are not null, and every look-up answers as on the untyped route
unless it is of a null field. -/
theorem typed_and_untyped_requests_answer_alike (fields : Fields) (ordered : Dict.Ordered fields) :
    ((TypedRequest.ofJson? (.object fields)).isSome = true ↔ Typable fields) ∧
      ∀ typed, TypedRequest.ofJson? (.object fields) = some typed →
        ∃ untyped, Request.ofJson (.object fields) = .ok untyped ∧
          untyped.payload.fields = fields ∧
          typed.toRequest.payload.fields = knownFields fields ∧
          (∀ field : TextField,
            SameUnlessNull fields field.key (typed.toRequest.text field) (untyped.text field)) ∧
          (∃ flag, typed.toRequest.leftScope = .ok flag ∧ untyped.leftScope = .ok flag) ∧
          SameUnlessNull fields "invokingEvent" typed.toRequest.trigger untyped.trigger ∧
          SameUnlessNull fields "ruleParameters" typed.toRequest.ruleParameters
            untyped.ruleParameters ∧
          ∀ (field : TextField) (key : String) (expected : FieldType),
            typed.toRequest.text field ≠ .error (.wrongType key expected) := by
  constructor
  · exact TypedRequest.accepted_iff_typable fields
  · intro typed accepted
    have made := TypedRequest.made_from_of_fields accepted
    refine ⟨.ofFields fields, rfl, rfl, ?_, texts_alike made, ⟨_, flags_alike made⟩, ?_, ?_, ?_⟩
    · rw [fields_of_to_request, TypedRequest.fields_of_made_from ordered made]
    · rw [trigger_of_text, trigger_of_text]
      exact (texts_alike made .invokingEvent).bind readTrigger
    · rw [rule_parameters_of_text, rule_parameters_of_text]
      exact (texts_alike made .ruleParameters).bind _
    · exact typed_text_never_wrong made

/-- A null account is missing on the typed route, which also drops the key it does not know. -/
theorem a_null_account_is_missing_on_the_typed_route :
    let fields : Fields := [("accountId", .null), ("eventLeftScope", .bool true),
      ("other", .number (.whole 1)), ("version", .string "1.0")]
    Dict.Ordered fields ∧
      ∃ typed untyped, TypedRequest.ofJson? (.object fields) = some typed ∧
        Request.ofJson (.object fields) = .ok untyped ∧
        typed.toRequest.payload.fields =
          [("eventLeftScope", .bool true), ("version", .string "1.0")] ∧
        typed.toRequest.text .accountId = .error (.missing "accountId") ∧
        untyped.text .accountId = .error (.wrongType "accountId" .text) ∧
        typed.toRequest.text .version = untyped.text .version := by
  intro fields
  have ordered : Dict.Ordered fields := by
    rw [Dict.ordered_iff_keys_ascend]
    decide +kernel
  obtain ⟨-, answers⟩ := typed_and_untyped_requests_answer_alike fields ordered
  obtain ⟨untyped, made, -, kept, texts, -⟩ := answers _ rfl
  have account := (texts .accountId).null rfl
  have version := (texts .version).same (by simp [fields, Dict.get?, TextField.key])
  exact ⟨ordered, _, untyped, rfl, made, kept, account.1, account.2, version⟩

end FunctionKit.ConfigRule
