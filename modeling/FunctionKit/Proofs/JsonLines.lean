import FunctionKit.Proofs.JsonDocuments

/-!
# A value is a single line

The compact text of a value has no control characters, whatever keys and texts the value holds: a
string escapes its own, and nothing else in the text comes from outside.
-/

namespace FunctionKit.Json

set_option autoImplicit false

open FunctionKit.Text

def NoControl (text : List Char) : Prop :=
  ∀ c ∈ text, 0x20 ≤ c.toNat

instance (text : List Char) : Decidable (NoControl text) :=
  List.decidableBAll (fun c : Char => 0x20 ≤ c.toNat) text

theorem NoControl.nil : NoControl [] :=
  fun _ member => absurd member List.not_mem_nil

theorem NoControl.cons {c : Char} {rest : List Char} (first : 0x20 ≤ c.toNat)
    (later : NoControl rest) : NoControl (c :: rest) :=
  List.forall_mem_cons.mpr ⟨first, later⟩

theorem NoControl.append {first second : List Char} (left : NoControl first)
    (right : NoControl second) : NoControl (first ++ second) :=
  List.forall_mem_append.mpr ⟨left, right⟩

theorem no_control_digits (n : Nat) : NoControl (digits n) := by
  intro c member
  have digit := digits_are_digits n c member
  simp only [Char.isDigit, Bool.and_eq_true, decide_eq_true_eq] at digit
  have low : '0'.val.toNat ≤ c.val.toNat := digit.1
  have zero : '0'.val.toNat = 0x30 := rfl
  have same : c.toNat = c.val.toNat := rfl
  omega

theorem no_control_zeros (count : Nat) : NoControl (List.replicate count '0') := by
  intro c member
  rw [List.eq_of_mem_replicate member]
  decide

theorem no_control_written_out {shown : List Char} (clean : NoControl shown) (power : Int) :
    NoControl (Binary64.writtenOut shown power) := by
  unfold Binary64.writtenOut
  dsimp only
  split_ifs
  · exact (clean.append (no_control_zeros _)).append (by decide)
  · apply NoControl.append
    · exact fun c member => clean c (List.mem_of_mem_take member)
    · exact .cons (by decide) fun c member => clean c (List.mem_of_mem_drop member)
  · exact .cons (by decide) (.cons (by decide) ((no_control_zeros _).append clean))

theorem no_control_scientific {shown : List Char} (clean : NoControl shown) (power : Int) :
    NoControl (Binary64.scientific fractionLayout shown power) := by
  have pointed : NoControl (Binary64.pointAfterFirst shown) := by
    unfold Binary64.pointAfterFirst
    split
    · obtain ⟨first, later⟩ := List.forall_mem_cons.mp clean
      exact .cons first (.cons (by decide) later)
    · exact clean
  unfold Binary64.scientific
  dsimp only
  apply pointed.append
  apply NoControl.cons (by decide)
  apply NoControl.cons
  · split <;> decide
  · exact no_control_digits _

theorem no_control_number (number : Number) : NoControl (renderNumber number) := by
  cases number with
  | whole value =>
      cases value with
      | ofNat n => exact no_control_digits n
      | negSucc n => exact .cons (by decide) (no_control_digits (n + 1))
  | fractional value =>
      have signed : NoControl (if value.isNegative then ['-'] else []) := by
        split <;> decide
      unfold renderNumber
      dsimp only
      split_ifs
      · unfold Binary64.render
        dsimp only
        split
        · exact signed.append (by decide)
        · apply signed.append
          split
          · exact no_control_written_out (no_control_digits _) _
          · exact no_control_scientific (no_control_digits _) _
      · decide

theorem no_control_escaped (c : Char) : NoControl (escapedChar c) := by
  have codes : ∀ n < 0x20, NoControl (hexDigitsPadded 4 n) := by decide
  by_cases control : c.toNat < 0x20
  · have coded : NoControl ('\\' :: 'u' :: hexDigitsPadded 4 c.toNat) :=
      .cons (by decide) (.cons (by decide) (codes c.toNat control))
    unfold escapedChar
    split_ifs <;> first | exact coded | decide
  · have plain : NoControl [c] := .cons (Nat.le_of_not_lt control) .nil
    unfold escapedChar
    split_ifs <;> first | exact plain | decide

theorem no_control_chars (chars : List Char) : NoControl (renderChars chars) := by
  induction chars with
  | nil => decide
  | cons c rest ih => exact (no_control_escaped c).append ih

theorem no_control_string (text : String) : NoControl (renderString text) :=
  .cons (by decide) (no_control_chars text.toList)

theorem no_control_items {items : List Json} (clean : ∀ item ∈ items, NoControl (render item)) :
    NoControl (renderItems items) := by
  induction items with
  | nil => decide
  | cons item rest ih =>
      obtain ⟨first, later⟩ := List.forall_mem_cons.mp clean
      rw [renderItems]
      exact .cons (by decide) (first.append (ih later))

theorem no_control_member {field : String × Json} (clean : NoControl (render field.2))
    {after : List Char} (later : NoControl after) :
    NoControl (renderString field.1 ++ ':' :: (render field.2 ++ after)) :=
  (no_control_string field.1).append (.cons (by decide) (clean.append later))

theorem no_control_members {members : List (String × Json)}
    (clean : ∀ field ∈ members, NoControl (render field.2)) :
    NoControl (renderMembers members) := by
  induction members with
  | nil => decide
  | cons field rest ih =>
      obtain ⟨first, later⟩ := List.forall_mem_cons.mp clean
      rw [renderMembers]
      exact .cons (by decide) (no_control_member first (ih later))

theorem render_no_control (value : Json) : NoControl (render value) := by
  induction value using induction_by_parts with
  | scalar value flat =>
      cases value with
      | null => decide
      | bool flag => cases flag <;> decide
      | number number => exact no_control_number number
      | string text => exact no_control_string text
      | array items => cases flat
      | object members => cases flat
  | array items ih =>
      cases items with
      | nil => decide
      | cons first others =>
          obtain ⟨clean, later⟩ := List.forall_mem_cons.mp ih
          rw [render]
          exact .cons (by decide) (clean.append (no_control_items later))
  | object members ih =>
      cases members with
      | nil => decide
      | cons first others =>
          obtain ⟨clean, later⟩ := List.forall_mem_cons.mp ih
          rw [render]
          exact .cons (by decide) (no_control_member clean (no_control_members later))

end FunctionKit.Json
