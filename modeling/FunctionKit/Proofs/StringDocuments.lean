import Mathlib.Data.List.DropRight
import FunctionKit.Proofs.JsonDocuments
import FunctionKit.Proofs.TypedRequests

/-!
# Documents of strings

An object of strings has a reader of its own, which stops at the first value that is no string. What
it accepts is read by the general reader too, and as the same strings. What the general reader
rejects it rejects, if not with the same fault then because it met another value before.
-/

namespace FunctionKit

set_option autoImplicit false

namespace Json

/-- Texts under keys, as members of an object. -/
def asStrings (entries : List (String × String)) : Fields :=
  entries.map fun entry => (entry.1, .string entry.2)

/-- A reading is special where another one is general: it gives the same value in another view and
leaves the same text, or the same fault, or it did not expect this kind of value. -/
inductive Narrows {α β : Type} (view : α → β) : Reading α → Reading β → Prop
  | read (value : α) (rest : List Char) : Narrows view (.ok (value, rest)) (.ok (view value, rest))
  | fault (fault : ReadError) : Narrows view (.error fault) (.error fault)
  | mismatched (general : Reading β) : Narrows view (.error .mismatched) general

/-! ## Values -/

theorem narrows_same {α : Type} (reading : Reading α) : Narrows id reading reading := by
  cases reading with
  | error fault => exact .fault fault
  | ok result => exact .read result.1 result.2

/-- Whatever reads arrays and objects, other values are read as if there were none. -/
theorem narrows_scalar (onArray onObject : List Char → Reading Json) (text : List Char) :
    Narrows id (readScalar text) (readStart onArray onObject text) := by
  unfold readScalar readStart
  cases skipGaps text with
  | nil => exact .fault _
  | cons c rest =>
      dsimp only
      by_cases array : c = '['
      · rw [if_pos array]
        exact .mismatched _
      by_cases object : c = '\x7b'
      · rw [if_neg array, if_pos object]
        exact .mismatched _
      rw [if_neg array, if_neg object, if_neg array, if_neg object]
      exact narrows_same _

theorem narrows_string_value (onArray onObject : List Char → Reading Json) (text : List Char) :
    Narrows Json.string (readStringValue text) (readStart onArray onObject text) := by
  have scalar := narrows_scalar onArray onObject text
  unfold readStringValue
  generalize readScalar text = special at scalar ⊢
  generalize readStart onArray onObject text = general at scalar ⊢
  cases scalar with
  | fault fault => exact .fault fault
  | mismatched general => exact .mismatched general
  | read value rest =>
      cases value with
      | string held => exact .read held rest
      | null | bool | number | array | object => exact .mismatched _

theorem narrows_string (depth : Nat) (text : List Char) :
    Narrows Json.string (readStringValue text) (readValue depth text) := by
  cases depth <;> exact narrows_string_value _ _ text

/-! ## Members -/

/-- The members of an object after its opening brace, with every duplicate. -/
def readListed {α : Type} (value : List Char → Reading α) (text : List Char) :
    Reading (List (String × α)) :=
  match skipGaps text with
  | [] => .error .unfinished
  | c :: rest => if c = '\x7d' then .ok ([], rest) else readMembers value text.length text

theorem read_object_eq {α : Type} (value : List Char → Reading α) (text : List Char) :
    readObject value text =
      (readListed value text).map fun listed => (Dict.ofPairs listed.1, listed.2) := by
  unfold readObject readListed
  cases skipGaps text with
  | nil => rfl
  | cons c rest =>
      dsimp only
      split
      · rfl
      · cases readMembers value text.length text <;> rfl

section Members

variable {α β : Type} {view : α → β} {special : List Char → Reading α}
  {general : List Char → Reading β}

theorem narrows_member (values : ∀ text, Narrows view (special text) (general text))
    (text : List Char) :
    Narrows (fun member => (member.1, view member.2)) (readMember special text)
      (readMember general text) := by
  unfold readMember
  cases skipGaps text with
  | nil => exact .fault _
  | cons quote rest =>
      dsimp only
      split
      case isFalse => exact .fault _
      case isTrue =>
        cases readString rest with
        | error fault => exact .fault fault
        | ok name =>
            obtain ⟨key, rest⟩ := name
            dsimp only
            cases skipGaps rest with
            | nil => exact .fault _
            | cons colon rest =>
                dsimp only
                split
                case isFalse => exact .fault _
                case isTrue =>
                  have value := values rest
                  generalize special rest = narrow at value ⊢
                  generalize general rest = wide at value ⊢
                  cases value with
                  | fault fault => exact .fault fault
                  | mismatched general => exact .mismatched _
                  | read held rest => exact .read (key, held) rest

/-- Both readers go from member to member together, until the special one meets another value. -/
theorem narrows_members (values : ∀ text, Narrows view (special text) (general text))
    (bound : Nat) (text : List Char) :
    Narrows (List.map fun member => (member.1, view member.2)) (readMembers special bound text)
      (readMembers general bound text) := by
  induction bound generalizing text with
  | zero => exact .fault _
  | succ bound ih =>
      have first := narrows_member values text
      unfold readMembers
      generalize readMember special text = narrow at first ⊢
      generalize readMember general text = wide at first ⊢
      cases first with
      | fault fault => exact .fault fault
      | mismatched general => exact .mismatched _
      | read member rest =>
          dsimp only
          cases skipGaps rest with
          | nil => exact .fault _
          | cons c rest =>
              dsimp only
              split
              · exact .read [member] rest
              · split
                case isFalse => exact .fault _
                case isTrue =>
                  have later := ih rest
                  generalize readMembers special bound rest = narrow at later ⊢
                  generalize readMembers general bound rest = wide at later ⊢
                  cases later with
                  | fault fault => exact .fault fault
                  | mismatched general => exact .mismatched _
                  | read others rest => exact .read (member :: others) rest

theorem narrows_listed (values : ∀ text, Narrows view (special text) (general text))
    (text : List Char) :
    Narrows (List.map fun member => (member.1, view member.2)) (readListed special text)
      (readListed general text) := by
  unfold readListed
  cases skipGaps text with
  | nil => exact .fault _
  | cons c rest =>
      dsimp only
      split
      · exact .read [] rest
      · exact narrows_members values text.length text

end Members

/-! ## Documents -/

/-- The members that a text lists between the braces of an object of strings, with every duplicate,
as both readers find them. -/
def Lists (text : String) (members : List (String × String)) : Prop :=
  ∃ body rest, skipGaps text.toList = '\x7b' :: body ∧ skipGaps rest = [] ∧
    readListed readStringValue body = .ok (members, rest) ∧
    readListed (readValue 126) body = .ok (asStrings members, rest)

theorem insert_as_strings (key value : String) (entries : Dict String) :
    Dict.insert key (.string value) (asStrings entries) =
      asStrings (Dict.insert key value entries) := by
  induction entries with
  | nil => rfl
  | cons entry rest ih =>
      unfold asStrings at ih ⊢
      simp only [List.map_cons, Dict.insert, ih]
      split
      · rfl
      · split <;> rfl

/-- Of duplicates both readers keep the same one. -/
theorem of_pairs_as_strings (members : List (String × String)) :
    Dict.ofPairs (asStrings members) = asStrings (Dict.ofPairs members) := by
  have kept : ∀ start : Dict String,
      Dict.insertAll (asStrings members) (asStrings start) =
        asStrings (Dict.insertAll members start) := by
    induction members with
    | nil => exact fun _ => rfl
    | cons member rest ih =>
        intro start
        have later := ih (Dict.insert member.1 member.2 start)
        rw [← insert_as_strings] at later
        exact later
  exact kept []

/-- The general reader at the brace that opens an object. -/
theorem read_value_object {text body : List Char} (opens : skipGaps text = '\x7b' :: body) :
    readValue greatestDepth text =
      (readListed (readValue 126) body).map fun listed =>
        (.object (Dict.ofPairs listed.1), listed.2) := by
  unfold greatestDepth readValue readStart
  rw [opens]
  simp only [if_neg (show ( '\x7b' : Char) ≠ '[' by decide), if_true]
  rw [read_object_eq]
  cases readListed (readValue 126) body <;> rfl

theorem read_scalar_again (text : List Char) : readScalar (skipGaps text) = readScalar text := by
  have again : skipGaps (skipGaps text) = skipGaps text := List.dropWhile_idempotent _ _
  unfold readScalar readStart
  rw [again]

theorem narrows_string_object (text : List Char) :
    Narrows (fun entries => .object (asStrings entries)) (readStringObject text)
      (readValue greatestDepth text) := by
  unfold readStringObject
  split
  · rename_i body opens
    have listed := narrows_listed (narrows_string 126) body
    rw [read_value_object opens, read_object_eq]
    generalize readListed readStringValue body = narrow at listed ⊢
    generalize readListed (readValue 126) body = wide at listed ⊢
    cases listed with
    | fault fault => exact .fault fault
    | mismatched general => exact .mismatched _
    | read members rest =>
        have same : Dict.ofPairs (members.map fun member => (member.1, Json.string member.2)) =
            asStrings (Dict.ofPairs members) := of_pairs_as_strings members
        simp only [Except.map]
        rw [same]
        exact .read (Dict.ofPairs members) rest
  · -- A document that is no object is read as a scalar, or refused as an array.
    have scalar : Narrows id (readScalar (skipGaps text)) (readValue greatestDepth text) := by
      unfold greatestDepth readValue
      rw [read_scalar_again]
      exact narrows_scalar _ _ text
    generalize readScalar (skipGaps text) = narrow at scalar ⊢
    generalize readValue greatestDepth text = wide at scalar ⊢
    cases scalar with
    | fault fault => exact .fault fault
    | mismatched => exact .mismatched _
    | read => exact .mismatched _

theorem read_of_strings {text : String} {entries : Dict String}
    (read : readStrings text = .ok entries) :
    Json.read text = .ok (.object (asStrings entries)) := by
  have narrowed := narrows_string_object text.toList
  unfold readStrings at read
  unfold Json.read
  generalize readStringObject text.toList = special at narrowed read
  generalize readValue greatestDepth text.toList = general at narrowed ⊢
  cases narrowed with
  | fault | mismatched => cases read
  | read held rest =>
      unfold atEnd at read ⊢
      dsimp only at read ⊢
      split at read
      · rename_i ended
        cases read
        rw [if_pos ended]
      · cases read

/-- The readers part only where the special one meets a value that is no string. -/
theorem fault_of_strings {text : String} {fault : ReadError}
    (failed : readStrings text = .error fault) :
    fault = .mismatched ∨ Json.read text = .error fault := by
  have narrowed := narrows_string_object text.toList
  unfold readStrings at failed
  unfold Json.read
  generalize readStringObject text.toList = special at narrowed failed
  generalize readValue greatestDepth text.toList = general at narrowed ⊢
  cases narrowed with
  | fault other =>
      cases failed
      exact .inr rfl
  | mismatched =>
      cases failed
      exact .inl rfl
  | read held rest =>
      unfold atEnd at failed ⊢
      dsimp only at failed ⊢
      split at failed
      · cases failed
      · rename_i more
        cases failed
        exact .inr (if_neg more)

/-- What is read are the listed members, of duplicates the last. -/
theorem lists_of_strings {text : String} {entries : Dict String}
    (read : readStrings text = .ok entries) :
    ∃ members, Lists text members ∧ entries = Dict.ofPairs members := by
  unfold readStrings readStringObject at read
  split at read
  · rename_i body opens
    have narrowed := narrows_listed (narrows_string 126) body
    rw [read_object_eq] at read
    generalize narrow : readListed readStringValue body = special at narrowed read
    generalize wide : readListed (readValue 126) body = general at narrowed
    cases narrowed with
    | fault | mismatched => cases read
    | read members rest =>
        unfold atEnd at read
        simp only [Except.map, List.isEmpty_iff] at read
        split at read
        · rename_i ended
          cases read
          exact ⟨members, ⟨body, rest, opens, ended, narrow, wide⟩, rfl⟩
        · cases read
  · cases scalar : readScalar (skipGaps text.toList) with
    | error fault =>
        rw [scalar] at read
        cases read
    | ok value =>
        rw [scalar] at read
        cases read

/-! ## Written objects of strings -/

/-- Whatever the keys and strings are, their compact text is read as the last string of each key. -/
theorem read_strings_written (entries : List (String × String)) :
    readStrings (Json.object (asStrings entries)).compactText = .ok (Dict.ofPairs entries) := by
  let view : Json → String := fun value => value.asString?.getD ""
  have values : ∀ field ∈ asStrings entries, ∀ after, EndsNumeral after →
      readStringValue (render field.2 ++ after) = .ok (view field.2, after) := by
    intro field member after _
    obtain ⟨entry, _, rfl⟩ := List.mem_map.mp member
    have scalar : readScalar (render (.string entry.2) ++ after) = .ok (.string entry.2, after) :=
      read_start_string _ _ entry.2 after
    rw [readStringValue, scalar]
    rfl
  have viewed : ((asStrings entries).map fun field => (field.1, view field.2)) = entries := by
    unfold asStrings
    rw [List.map_map]
    exact List.map_id entries
  obtain ⟨body, opens, read⟩ := read_object_render readStringValue view (asStrings entries) [] values
  rw [List.append_nil] at opens
  rw [viewed] at read
  have brace : isGap '\x7b' = false := by decide
  unfold readStrings readStringObject compactText
  rw [String.toList_ofList, opens, skip_gaps_of_start brace]
  simp only [read]
  rfl

end Json

namespace ConfigRule

/-- A general look-up of the parameters of a rule. -/
def parameterDocument (request : Request) : Except FieldError Json :=
  request.payload.document TextField.ruleParameters.key Json.read

theorem parameter_document_of_text (request : Request) :
    parameterDocument request =
      (request.text .ruleParameters).bind (readInto TextField.ruleParameters.key Json.read) :=
  document_of_text _ _ _

/-- Every text of an object of strings gives exactly these strings as parameters, of duplicates the
last. Whatever the text is, parameters that are read from it are the members of the object that a
general look-up reads from it, and the same of its duplicates are kept. A text that a general look-up
refuses gives no parameters, and with the same error unless a value other than a string comes
before. -/
theorem parameters_are_the_strings_of_the_document (request : Request) (source : String)
    (held : request.text .ruleParameters = .ok source) :
    (∀ entries, source = (Json.object (Json.asStrings entries)).compactText →
      ∃ parameters, request.ruleParameters = .ok parameters ∧ Dict.Ordered parameters ∧
        (∀ key, Dict.get? key parameters = Dict.lastValue? key entries) ∧
        ((Dict.keys entries).Nodup → ∀ key, Dict.get? key parameters = Dict.get? key entries) ∧
        (Dict.Ordered entries → parameters = entries)) ∧
    (∀ parameters, request.ruleParameters = .ok parameters →
      Dict.Ordered parameters ∧
        parameterDocument request = .ok (.object (Json.asStrings parameters)) ∧
        ∃ members, Json.Lists source members ∧ ∀ key,
          Dict.get? key parameters = Dict.lastValue? key members ∧
          Dict.get? key (Json.asStrings parameters) =
            Dict.lastValue? key (Json.asStrings members)) ∧
    (∀ fault, parameterDocument request = .error fault →
      ∃ other, request.ruleParameters = .error (.unreadable TextField.ruleParameters.key other) ∧
        (other = .mismatched ∨ fault = .unreadable TextField.ruleParameters.key other)) := by
  have special := rule_parameters_of_text request
  have general := parameter_document_of_text request
  rw [held] at special general
  simp only [Except.bind] at special general
  refine ⟨?_, ?_, ?_⟩
  · intro entries written
    have read := Json.read_strings_written entries
    rw [← written] at read
    rw [special, readInto, read]
    refine ⟨Dict.ofPairs entries, rfl, Dict.ordered_of_pairs entries, ?_, ?_, ?_⟩
    · exact Dict.get?_of_pairs_last entries
    · exact fun distinct => Dict.get?_of_pairs distinct
    · exact fun ordered => Dict.of_pairs_of_ordered ordered
  · intro parameters answered
    rw [special, readInto] at answered
    cases read : Json.readStrings source with
    | error fault =>
        rw [read] at answered
        cases answered
    | ok strings =>
        rw [read] at answered
        cases answered
        obtain ⟨members, lists, same⟩ := Json.lists_of_strings read
        have document := Json.read_of_strings read
        rw [general, readInto, document]
        rw [same]
        refine ⟨Dict.ordered_of_pairs members, rfl, members, lists, ?_⟩
        intro key
        rw [← Json.of_pairs_as_strings]
        exact ⟨Dict.get?_of_pairs_last members key, Dict.get?_of_pairs_last _ key⟩
  · intro fault refused
    rw [general, readInto] at refused
    cases read : Json.readStrings source with
    | ok strings =>
        rw [Json.read_of_strings read] at refused
        cases refused
    | error other =>
        rw [special, readInto, read]
        refine ⟨other, rfl, ?_⟩
        apply (Json.fault_of_strings read).imp_right
        intro alike
        rw [alike] at refused
        cases refused
        rfl

/-- Of two owners the later one counts. The number in the other request is met before the comma that
makes its text no document at all. -/
theorem the_later_owner_is_the_parameter :
    let entries := [("owner", "a"), ("team", "\n"), ("owner", "b")]
    let source := (Json.object (Json.asStrings entries)).compactText
    let request := Request.ofFields [("ruleParameters", .string source)]
    let broken := Request.ofFields
      [("ruleParameters", .string "\x7b\"size\":7,\x7d"), ("version", .null)]
    request.text .ruleParameters = .ok source ∧
      (∃ parameters, request.ruleParameters = .ok parameters ∧
        Dict.get? "owner" parameters = some "b" ∧ Dict.get? "team" parameters = some "\n" ∧
        parameterDocument request = .ok (.object (Json.asStrings parameters))) ∧
      broken.text .ruleParameters = .ok "\x7b\"size\":7,\x7d" ∧
      parameterDocument broken = .error (.unreadable "ruleParameters" .malformed) ∧
      broken.ruleParameters = .error (.unreadable "ruleParameters" .mismatched) := by
  intro entries source request broken
  have held : request.text .ruleParameters = .ok source := rfl
  have heldBroken : broken.text .ruleParameters = .ok "\x7b\"size\":7,\x7d" := rfl
  obtain ⟨written, read, _⟩ := parameters_are_the_strings_of_the_document request source held
  obtain ⟨_, _, refused⟩ := parameters_are_the_strings_of_the_document broken _ heldBroken
  obtain ⟨parameters, answered, _, told, _⟩ := written entries rfl
  have document : parameterDocument broken = .error (.unreadable "ruleParameters" .malformed) := rfl
  obtain ⟨other, failed, mismatched | alike⟩ := refused _ document
  · rw [mismatched] at failed
    exact ⟨held, ⟨parameters, answered, told "owner", told "team", (read parameters answered).2.1⟩,
      heldBroken, document, failed⟩
  · cases alike
    cases failed

end ConfigRule

end FunctionKit
