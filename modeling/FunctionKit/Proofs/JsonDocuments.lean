import FunctionKit.Proofs.ByteOrder
import FunctionKit.Proofs.Dictionaries
import FunctionKit.Proofs.JsonTokens

/-!
# Reading back documents

A value can be taken apart into its parts. If the objects among them have their keys in order, the
numbers among them are whole, and not too many arrays and objects lie inside each other, reading
the compact text of the value gives the value back.
-/

namespace FunctionKit.Json

set_option autoImplicit false

open FunctionKit.Text

/-! ## Parts of a value -/

/-- What lies inside a value at any depth, the value itself included. -/
inductive Part : Json → Json → Prop
  | whole (value : Json) : Part value value
  | item {part item : Json} {items : List Json} (member : item ∈ items)
      (inside : Part part item) : Part part (.array items)
  | field {part : Json} {field : String × Json} {members : List (String × Json)}
      (member : field ∈ members) (inside : Part part field.2) : Part part (.object members)

/-- Something holds of every part of a value. -/
def Throughout (holds : Json → Prop) (value : Json) : Prop :=
  ∀ part, Part part value → holds part

def KeysInOrder : Json → Prop
  | .object members =>
    (Dict.keys members).Pairwise fun first second => utf8Bytes first < utf8Bytes second
  | _ => True

def NumberFits : Json → Prop
  | .number value => value.IsWord
  | _ => True

/-- The keys of every object stand in strictly ascending order of their bytes. -/
def KeysAscend : Json → Prop :=
  Throughout KeysInOrder

/-- Every number is whole and fits a word. -/
def WholeNumbers : Json → Prop :=
  Throughout NumberFits

theorem Throughout.here {holds : Json → Prop} {value : Json} (all : Throughout holds value) :
    holds value :=
  all value (.whole value)

theorem throughout_array_iff (holds : Json → Prop) (items : List Json) :
    Throughout holds (.array items) ↔
      holds (.array items) ∧ ∀ item ∈ items, Throughout holds item := by
  constructor
  · intro all
    exact ⟨all.here, fun item member part inside => all part (.item member inside)⟩
  · intro parts part inside
    cases inside with
    | whole => exact parts.1
    | item member inside => exact parts.2 _ member part inside

theorem throughout_object_iff (holds : Json → Prop) (members : Fields) :
    Throughout holds (.object members) ↔
      holds (.object members) ∧ ∀ field ∈ members, Throughout holds field.2 := by
  constructor
  · intro all
    exact ⟨all.here, fun field member part inside => all part (.field member inside)⟩
  · intro parts part inside
    cases inside with
    | whole => exact parts.1
    | field member inside => exact parts.2 _ member part inside

mutual

/-- How many arrays and objects lie inside each other. -/
def nesting : Json → Nat
  | .null => 0
  | .bool _ => 0
  | .number _ => 0
  | .string _ => 0
  | .array items => nestingOfItems items + 1
  | .object members => nestingOfMembers members + 1

def nestingOfItems : List Json → Nat
  | [] => 0
  | item :: rest => max (nesting item) (nestingOfItems rest)

def nestingOfMembers : List (String × Json) → Nat
  | [] => 0
  | (_, value) :: rest => max (nesting value) (nestingOfMembers rest)

end

theorem nesting_of_items_le_iff (items : List Json) (depth : Nat) :
    nestingOfItems items ≤ depth ↔ ∀ item ∈ items, item.nesting ≤ depth := by
  induction items with
  | nil => simp [nestingOfItems]
  | cons item rest ih => simp [nestingOfItems, ih]

theorem nesting_of_members_le_iff (members : List (String × Json)) (depth : Nat) :
    nestingOfMembers members ≤ depth ↔ ∀ field ∈ members, field.2.nesting ≤ depth := by
  induction members with
  | nil => simp [nestingOfMembers]
  | cons field rest ih =>
      obtain ⟨key, value⟩ := field
      simp [nestingOfMembers, ih]

theorem nesting_array_le_iff (items : List Json) (depth : Nat) :
    (Json.array items).nesting ≤ depth + 1 ↔ ∀ item ∈ items, item.nesting ≤ depth := by
  rw [nesting, Nat.add_le_add_iff_right, nesting_of_items_le_iff]

theorem nesting_object_le_iff (members : List (String × Json)) (depth : Nat) :
    (Json.object members).nesting ≤ depth + 1 ↔ ∀ field ∈ members, field.2.nesting ≤ depth := by
  rw [nesting, Nat.add_le_add_iff_right, nesting_of_members_le_iff]

theorem throughout_flat_iff (holds : Json → Prop) {value : Json} (flat : value.nesting = 0) :
    Throughout holds value ↔ holds value := by
  constructor
  · exact Throughout.here
  · intro here part inside
    cases inside with
    | whole => exact here
    | item => cases flat
    | field => cases flat

theorem throughout_null_iff (holds : Json → Prop) : Throughout holds .null ↔ holds .null :=
  throughout_flat_iff holds rfl

theorem throughout_bool_iff (holds : Json → Prop) (flag : Bool) :
    Throughout holds (.bool flag) ↔ holds (.bool flag) :=
  throughout_flat_iff holds rfl

theorem throughout_number_iff (holds : Json → Prop) (value : Number) :
    Throughout holds (.number value) ↔ holds (.number value) :=
  throughout_flat_iff holds rfl

theorem throughout_string_iff (holds : Json → Prop) (text : String) :
    Throughout holds (.string text) ↔ holds (.string text) :=
  throughout_flat_iff holds rfl

attribute [simp] throughout_null_iff throughout_bool_iff throughout_number_iff
  throughout_string_iff throughout_array_iff throughout_object_iff

/-- In an object that is looked at from outside, the order of bytes is the order of texts. -/
theorem keys_in_order_iff (members : Fields) :
    KeysInOrder (.object members) ↔ Dict.Ordered members :=
  (ordered_iff_bytes_ascend members).symm

theorem KeysAscend.ordered {members : Fields} (ascend : (Json.object members).KeysAscend) :
    Dict.Ordered members :=
  (keys_in_order_iff members).mp ascend.here

/-- What holds of a value whenever it holds of its items or members holds of every value. -/
theorem induction_by_parts {motive : Json → Prop}
    (scalar : ∀ value, value.nesting = 0 → motive value)
    (array : ∀ items, (∀ item ∈ items, motive item) → motive (.array items))
    (object : ∀ members, (∀ field ∈ members, motive field.2) → motive (.object members))
    (value : Json) : motive value := by
  have bounded : ∀ depth value, nesting value ≤ depth → motive value := by
    intro depth
    induction depth with
    | zero => exact fun value flat => scalar value (Nat.le_zero.mp flat)
    | succ depth ih =>
        intro value nested
        cases value with
        | null => exact scalar _ rfl
        | bool flag => exact scalar _ rfl
        | number number => exact scalar _ rfl
        | string text => exact scalar _ rfl
        | array items =>
            have flatter := (nesting_array_le_iff items depth).mp nested
            exact array items fun item member => ih item (flatter item member)
        | object members =>
            have flatter := (nesting_object_le_iff members depth).mp nested
            exact object members fun field member => ih field.2 (flatter field member)
  exact bounded value.nesting value le_rfl

/-! ## What reading gives back -/

/-- A value that reading its text gives back at a depth. -/
structure Readable (depth : Nat) (value : Json) : Prop where
  nested : value.nesting ≤ depth
  ascend : value.KeysAscend
  whole : value.WholeNumbers

theorem Readable.of_item {depth : Nat} {items : List Json}
    (readable : Readable (depth + 1) (.array items)) {item : Json} (member : item ∈ items) :
    Readable depth item where
  nested := (nesting_array_le_iff items depth).mp readable.nested item member
  ascend := ((throughout_array_iff _ items).mp readable.ascend).2 item member
  whole := ((throughout_array_iff _ items).mp readable.whole).2 item member

theorem Readable.of_field {depth : Nat} {members : List (String × Json)}
    (readable : Readable (depth + 1) (.object members)) {field : String × Json}
    (member : field ∈ members) : Readable depth field.2 where
  nested := (nesting_object_le_iff members depth).mp readable.nested field member
  ascend := ((throughout_object_iff _ members).mp readable.ascend).2 field member
  whole := ((throughout_object_iff _ members).mp readable.whole).2 field member

/-! ## Scalars -/

theorem read_start_number (onArray onObject : List Char → Reading Json) {number : Number}
    (word : number.IsWord) {rest : List Char} (ends : EndsNumeral rest) :
    readStart onArray onObject (renderNumber number ++ rest) = .ok (.number number, rest) := by
  have read := read_number_whole word ends
  obtain ⟨c, more, shape, starts⟩ := number_starts word
  have array := starts.apart '[' (by decide) (by decide)
  have object := starts.apart '\x7b' (by decide) (by decide)
  have quote := starts.apart '"' (by decide) (by decide)
  have null := starts.apart 'n' (by decide) (by decide)
  have yes := starts.apart 't' (by decide) (by decide)
  have no := starts.apart 'f' (by decide) (by decide)
  have numeral : (decide (c = '-') || c.isDigit) = true := by
    rw [Bool.or_eq_true, decide_eq_true_eq]
    exact starts
  rw [shape, List.cons_append] at read ⊢
  unfold readStart
  rw [skip_gaps_of_start starts.no_gap]
  simp only [array, object, quote, null, yes, no, if_false, numeral, if_true, read]

theorem read_start_string (onArray onObject : List Char → Reading Json) (text : String)
    (rest : List Char) :
    readStart onArray onObject (renderString text ++ rest) = .ok (.string text, rest) := by
  have read := read_string_render text rest
  have quote : isGap '"' = false := by decide
  unfold readStart renderString
  rw [List.cons_append, skip_gaps_of_start quote]
  simp [read]

/-- Whatever reads arrays and objects, other values are read the same way. -/
theorem read_start_scalar (onArray onObject : List Char → Reading Json) {value : Json}
    (scalar : value.nesting = 0) (whole : value.WholeNumbers) {rest : List Char}
    (ends : EndsNumeral rest) :
    readStart onArray onObject (render value ++ rest) = .ok (value, rest) := by
  cases value with
  | null => rfl
  | bool flag => cases flag <;> rfl
  | number number => exact read_start_number onArray onObject whole.here ends
  | string text => exact read_start_string onArray onObject text rest
  | array items => cases scalar
  | object members => cases scalar

/-! ## Items and members -/

/-- The first character of a value's text tells it from a gap and from a closing bracket. -/
theorem render_starts {value : Json} (whole : value.WholeNumbers) :
    ∃ c more, render value = c :: more ∧ isGap c = false ∧ c ≠ ']' := by
  cases value with
  | null => exact ⟨_, _, rfl, by decide⟩
  | bool flag => cases flag <;> exact ⟨_, _, rfl, by decide⟩
  | number number =>
      obtain ⟨c, more, shape, starts⟩ := number_starts whole.here
      exact ⟨c, more, shape, starts.no_gap, starts.apart ']' (by decide) (by decide)⟩
  | string text => exact ⟨_, _, rfl, by decide⟩
  | array items => cases items <;> exact ⟨_, _, rfl, by decide⟩
  | object members => cases members <;> exact ⟨_, _, rfl, by decide⟩

theorem items_fit_text (items : List Json) : items.length < (renderItems items).length := by
  induction items with
  | nil => simp [renderItems]
  | cons item rest ih =>
      simp only [renderItems, List.length_cons, List.length_append]
      omega

theorem members_fit_text (members : List (String × Json)) :
    members.length < (renderMembers members).length := by
  induction members with
  | nil => simp [renderMembers]
  | cons field rest ih =>
      simp only [renderMembers, List.length_cons, List.length_append]
      omega

theorem ends_numeral_render_items (items : List Json) (rest : List Char) :
    EndsNumeral (renderItems items ++ rest) := by
  intro c head
  cases items <;>
    · simp only [renderItems, List.cons_append, List.head?_cons, Option.some.injEq] at head
      subst head
      decide

theorem ends_numeral_render_members (members : List (String × Json)) (rest : List Char) :
    EndsNumeral (renderMembers members ++ rest) := by
  intro c head
  cases members <;>
    · simp only [renderMembers, List.cons_append, List.head?_cons, Option.some.injEq] at head
      subst head
      decide

section Items

variable {item : List Char → Reading Json} {text after rest : List Char} {value : Json}

theorem read_items_last (bound : Nat) (read : item text = .ok (value, ']' :: rest)) :
    readItems item (bound + 1) text = .ok ([value], rest) := by
  simp only [readItems, read]
  rfl

theorem read_items_more {bound : Nat} {others : List Json}
    (read : item text = .ok (value, ',' :: after))
    (later : readItems item bound after = .ok (others, rest)) :
    readItems item (bound + 1) text = .ok (value :: others, rest) := by
  have comma : isGap ',' = false := by decide
  simp only [readItems, read, skip_gaps_of_start comma, later]
  rfl

theorem read_items_render (first : Json) (others : List Json) (bound : Nat)
    (enough : others.length < bound) (rest : List Char)
    (reads : ∀ value ∈ first :: others, ∀ after, EndsNumeral after →
      item (render value ++ after) = .ok (value, after)) :
    readItems item bound (render first ++ (renderItems others ++ rest)) =
      .ok (first :: others, rest) := by
  induction others generalizing first bound with
  | nil =>
      obtain ⟨fewer, rfl⟩ := Nat.exists_eq_succ_of_ne_zero (Nat.ne_of_gt enough)
      exact read_items_last fewer
        (reads first List.mem_cons_self _ (ends_numeral_render_items [] rest))
  | cons next others ih =>
      obtain ⟨fewer, rfl⟩ := Nat.exists_eq_succ_of_ne_zero (Nat.ne_of_gt (Nat.zero_lt_of_lt enough))
      have read := reads first List.mem_cons_self _
        (ends_numeral_render_items (next :: others) rest)
      have later := ih next fewer (Nat.lt_of_succ_lt_succ enough)
        fun value member => reads value (List.mem_cons_of_mem _ member)
      have shape : renderItems (next :: others) ++ rest =
          ',' :: (render next ++ (renderItems others ++ rest)) := by
        rw [renderItems, List.cons_append, List.append_assoc]
      rw [shape] at read ⊢
      exact read_items_more read later

end Items

section Members

variable {α : Type} {value : List Char → Reading α} {text after rest : List Char}
  {member : String × α}

theorem read_members_last (bound : Nat)
    (read : readMember value text = .ok (member, '\x7d' :: rest)) :
    readMembers value (bound + 1) text = .ok ([member], rest) := by
  simp only [readMembers, read]
  rfl

theorem read_members_more {bound : Nat} {others : List (String × α)}
    (read : readMember value text = .ok (member, ',' :: after))
    (later : readMembers value bound after = .ok (others, rest)) :
    readMembers value (bound + 1) text = .ok (member :: others, rest) := by
  have comma : isGap ',' = false := by decide
  simp only [readMembers, read, skip_gaps_of_start comma, later]
  rfl

theorem read_member_render (key : String) {held : α}
    (read : value text = .ok (held, rest)) :
    readMember value (renderString key ++ ':' :: text) = .ok ((key, held), rest) := by
  have quote : isGap '"' = false := by decide
  have colon : isGap ':' = false := by decide
  have name := read_string_render key (':' :: text)
  unfold readMember renderString
  rw [List.cons_append, skip_gaps_of_start quote]
  simp only [if_true, name, skip_gaps_of_start colon, read]

/-- Members are read as their keys and what the reader of values makes of their values. -/
theorem read_members_render (view : Json → α) (first : String × Json)
    (others : List (String × Json)) (bound : Nat) (enough : others.length < bound)
    (rest : List Char)
    (reads : ∀ field ∈ first :: others, ∀ after, EndsNumeral after →
      value (render field.2 ++ after) = .ok (view field.2, after)) :
    readMembers value bound
        (renderString first.1 ++ ':' :: (render first.2 ++ (renderMembers others ++ rest))) =
      .ok ((first :: others).map fun field => (field.1, view field.2), rest) := by
  induction others generalizing first bound with
  | nil =>
      obtain ⟨fewer, rfl⟩ := Nat.exists_eq_succ_of_ne_zero (Nat.ne_of_gt enough)
      exact read_members_last fewer (read_member_render first.1
        (reads first List.mem_cons_self _ (ends_numeral_render_members [] rest)))
  | cons next others ih =>
      obtain ⟨fewer, rfl⟩ := Nat.exists_eq_succ_of_ne_zero (Nat.ne_of_gt (Nat.zero_lt_of_lt enough))
      have read := read_member_render first.1 (reads first List.mem_cons_self _
        (ends_numeral_render_members (next :: others) rest))
      have later := ih next fewer (Nat.lt_of_succ_lt_succ enough)
        fun field member => reads field (List.mem_cons_of_mem _ member)
      have shape : renderMembers (next :: others) ++ rest =
          ',' :: (renderString next.1 ++ ':' :: (render next.2 ++ (renderMembers others ++ rest))) := by
        rw [renderMembers]
        simp only [List.cons_append, List.append_assoc]
      rw [shape] at read ⊢
      exact read_members_more read later

end Members

/-! ## Values -/

theorem read_array_render (item : List Char → Reading Json) (items : List Json)
    (whole : (Json.array items).WholeNumbers) (rest : List Char)
    (reads : ∀ value ∈ items, ∀ after, EndsNumeral after →
      item (render value ++ after) = .ok (value, after)) :
    ∃ text, render (.array items) ++ rest = '[' :: text ∧
      readArray item text = .ok (.array items, rest) := by
  cases items with
  | nil => exact ⟨']' :: rest, rfl, rfl⟩
  | cons first others =>
      refine ⟨render first ++ (renderItems others ++ rest), ?_, ?_⟩
      · rw [render, List.cons_append, List.append_assoc]
      · have enough : others.length < (render first ++ (renderItems others ++ rest)).length := by
          have fit := items_fit_text others
          simp only [List.length_append]
          omega
        have read := read_items_render first others _ enough rest reads
        have wholeFirst : first.WholeNumbers :=
          ((throughout_array_iff _ _).mp whole).2 first List.mem_cons_self
        obtain ⟨c, more, shape, noGap, noBracket⟩ := render_starts wholeFirst
        rw [shape, List.cons_append] at read ⊢
        unfold readArray
        rw [skip_gaps_of_start noGap]
        simp only [if_neg noBracket, read]

theorem read_object_render {α : Type} (value : List Char → Reading α) (view : Json → α)
    (members : List (String × Json)) (rest : List Char)
    (reads : ∀ field ∈ members, ∀ after, EndsNumeral after →
      value (render field.2 ++ after) = .ok (view field.2, after)) :
    ∃ text, render (.object members) ++ rest = '\x7b' :: text ∧
      readObject value text =
        .ok (Dict.ofPairs (members.map fun field => (field.1, view field.2)), rest) := by
  cases members with
  | nil => exact ⟨'\x7d' :: rest, rfl, rfl⟩
  | cons first others =>
      refine ⟨renderString first.1 ++ ':' :: (render first.2 ++ (renderMembers others ++ rest)),
        ?_, ?_⟩
      · rw [render]
        simp only [List.cons_append, List.append_assoc]
      · have enough : others.length < (renderString first.1 ++
            ':' :: (render first.2 ++ (renderMembers others ++ rest))).length := by
          have fit := members_fit_text others
          simp only [List.length_append, List.length_cons]
          omega
        have read := read_members_render view first others _ enough rest reads
        have quote : isGap '"' = false := by decide
        have noBrace : ( '"' : Char) ≠ '\x7d' := by decide
        unfold readObject
        unfold renderString at read ⊢
        rw [List.cons_append] at read ⊢
        rw [skip_gaps_of_start quote]
        simp only [if_neg noBrace, read]

/-- Reading what was written gives the value back and leaves the text after it. -/
theorem read_value_render (depth : Nat) (value : Json) (readable : Readable depth value)
    (rest : List Char) (ends : EndsNumeral rest) :
    readValue depth (render value ++ rest) = .ok (value, rest) := by
  induction depth generalizing value rest with
  | zero =>
      have scalar := Nat.le_zero.mp readable.nested
      exact read_start_scalar _ _ scalar readable.whole ends
  | succ depth ih =>
      rw [readValue]
      cases value with
      | null => exact read_start_scalar _ _ rfl readable.whole ends
      | bool flag => exact read_start_scalar _ _ rfl readable.whole ends
      | number number => exact read_start_scalar _ _ rfl readable.whole ends
      | string text => exact read_start_scalar _ _ rfl readable.whole ends
      | array items =>
          obtain ⟨text, shape, read⟩ := read_array_render (readValue depth) items readable.whole
            rest fun value member after => ih value (readable.of_item member) after
          have bracket : isGap '[' = false := by decide
          rw [shape]
          unfold readStart
          rw [skip_gaps_of_start bracket]
          exact read
      | object members =>
          obtain ⟨text, shape, read⟩ := read_object_render (readValue depth) id members
            rest fun field member after => ih field.2 (readable.of_field member) after
          have same : (members.map fun field => (field.1, id field.2)) = members :=
            List.map_id members
          have brace : isGap '\x7b' = false := by decide
          rw [same, Dict.of_pairs_of_ordered readable.ascend.ordered] at read
          rw [shape]
          unfold readStart
          rw [skip_gaps_of_start brace]
          simp [read]

/-- A document may have gaps around it. -/
theorem read_document {value : Json} (readable : Readable greatestDepth value)
    (before after : List Char) (gapsBefore : ∀ c ∈ before, isGap c = true)
    (gapsAfter : ∀ c ∈ after, isGap c = true) :
    read (String.ofList (before ++ render value ++ after)) = .ok value := by
  have text := read_value_render greatestDepth value readable after (ends_numeral_of_gaps gapsAfter)
  have skipped : readValue greatestDepth (before ++ (render value ++ after)) =
      readValue greatestDepth (render value ++ after) := by
    unfold greatestDepth readValue readStart
    rw [skip_gaps_of_gaps gapsBefore]
  have nothing : skipGaps after = [] := by
    have gaps := skip_gaps_of_gaps gapsAfter []
    rw [List.append_nil] at gaps
    exact gaps
  unfold read
  rw [String.toList_ofList, List.append_assoc, skipped, text]
  simp only [atEnd, nothing, List.isEmpty_nil, if_true]

end FunctionKit.Json
