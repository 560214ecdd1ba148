import Mathlib.Data.String.Basic
import FunctionKit.Proofs.Dictionaries
import FunctionKit.Text.Encoding

/-!
# The order of bytes

Texts are ordered by their characters. Their bytes are in the same order, because a greater
character has a greater first byte, or the same first byte and a greater one after it. For the same
reason the bytes tell what a text starts with, and of two starts of one text which is shorter.
-/

namespace FunctionKit.Text

set_option autoImplicit false

theorem code_point_bound (c : Char) : c.val.toNat < 0x110000 := by
  rcases c.valid with low | high
  · have bound : c.val.toNat < 0xD800 := low
    omega
  · exact high.2

/-- The bytes of two characters differ in a place that both have, whatever follows. -/
theorem encode_char_before {c d : Char} (before : c < d) (left right : List UInt8) :
    String.utf8EncodeChar c ++ left < String.utf8EncodeChar d ++ right := by
  have less : c.val.toNat < d.val.toNat := before
  have bound := code_point_bound d
  unfold String.utf8EncodeChar
  dsimp only
  -- one case for each pair of lengths
  split_ifs <;>
    simp only [List.cons_append, List.nil_append, List.cons_lt_cons_iff, UInt8.lt_iff_toNat_lt,
      ← UInt8.toNat_inj, UInt8.toNat_ofNat'] <;>
    simp (disch := omega) only [Nat.mod_eq_of_lt (b := 256), Nat.mod_eq_of_lt (b := 8)] <;>
    omega

theorem encode_chars_before {first second : List Char} (before : first < second) :
    first.flatMap String.utf8EncodeChar < second.flatMap String.utf8EncodeChar := by
  induction first generalizing second with
  | nil =>
      cases second with
      | nil => exact absurd before (List.lt_irrefl _)
      | cons c rest =>
          rw [List.flatMap_nil, List.flatMap_cons]
          cases encoded : String.utf8EncodeChar c with
          | nil => exact absurd encoded String.utf8EncodeChar_ne_nil
          | cons byte more => exact List.nil_lt_cons _ _
  | cons c rest ih =>
      cases second with
      | nil => exact absurd before (List.not_lt_nil _)
      | cons d others =>
          rw [List.flatMap_cons, List.flatMap_cons]
          rcases List.cons_lt_cons_iff.mp before with less | ⟨same, later⟩
          · exact encode_char_before less _ _
          · subst same
            exact List.append_left_lt (ih later)

theorem utf8_bytes_of_chars (text : String) :
    utf8Bytes text = text.toList.flatMap String.utf8EncodeChar := by
  have bytes : (String.ofList text.toList).toByteArray = text.toList.utf8Encode :=
    String.toByteArray_ofList
  rw [String.ofList_toList] at bytes
  unfold utf8Bytes
  rw [String.toUTF8_eq_toByteArray, bytes]
  simp [List.utf8Encode]

/-- Texts stand in the same order by their bytes as by their characters. -/
theorem utf8_bytes_lt_iff (first second : String) :
    utf8Bytes first < utf8Bytes second ↔ first < second := by
  rw [utf8_bytes_of_chars, utf8_bytes_of_chars, String.lt_iff_toList_lt]
  constructor
  · intro before
    rcases lt_trichotomy first.toList second.toList with less | same | greater
    · exact less
    · rw [same] at before
      exact absurd before (List.lt_irrefl _)
    · exact absurd (encode_chars_before greater) (List.lt_asymm before)
  · exact encode_chars_before

/-- The order of a dictionary is the order of the bytes of its keys. -/
theorem ordered_iff_bytes_ascend {α : Type} (entries : Dict α) :
    Dict.Ordered entries ↔ (Dict.keys entries).Pairwise fun first second =>
      utf8Bytes first < utf8Bytes second := by
  simp only [utf8_bytes_lt_iff]
  exact Dict.ordered_iff_keys_ascend entries

/-- Characters can be told apart by their bytes, whatever follows. -/
theorem encode_char_inj {c d : Char} {left right : List UInt8}
    (same : String.utf8EncodeChar c ++ left = String.utf8EncodeChar d ++ right) : c = d := by
  rcases lt_trichotomy c d with less | equal | greater
  · have before := encode_char_before less left right
    rw [same] at before
    exact absurd before (List.lt_irrefl _)
  · exact equal
  · have before := encode_char_before greater right left
    rw [same] at before
    exact absurd before (List.lt_irrefl _)

theorem encode_chars_prefix_iff (start text : List Char) :
    start.flatMap String.utf8EncodeChar <+: text.flatMap String.utf8EncodeChar ↔
      start <+: text := by
  induction start generalizing text with
  | nil => simp
  | cons c start ih =>
      cases text with
      | nil => simp [String.utf8EncodeChar_ne_nil]
      | cons d text =>
          rw [List.flatMap_cons, List.flatMap_cons, List.cons_prefix_cons, ← ih text]
          constructor
          · rintro ⟨rest, split⟩
            rw [List.append_assoc] at split
            have same := encode_char_inj split
            subst same
            exact ⟨rfl, rest, List.append_cancel_left split⟩
          · rintro ⟨rfl, starts⟩
            exact List.prefix_append_right_inj _ |>.mpr starts

/-- A text starts with another by its bytes if it does so by its characters. -/
theorem utf8_bytes_prefix_iff (start text : String) :
    utf8Bytes start <+: utf8Bytes text ↔ start.toList <+: text.toList := by
  rw [utf8_bytes_of_chars, utf8_bytes_of_chars, encode_chars_prefix_iff]

/-- Of a text and a start of it the bytes tell which is shorter as the characters do. -/
theorem utf8_bytes_length_lt_iff_of_prefix {start text : String}
    (starts : start.toList <+: text.toList) :
    (utf8Bytes start).length < (utf8Bytes text).length ↔ start.length < text.length := by
  obtain ⟨rest, split⟩ := starts
  rw [utf8_bytes_of_chars, utf8_bytes_of_chars, ← String.length_toList, ← String.length_toList,
    ← split, List.flatMap_append, List.length_append, List.length_append]
  cases rest with
  | nil => simp
  | cons c more =>
      have filled := List.length_pos_iff.mpr (String.utf8EncodeChar_ne_nil (c := c))
      simp only [List.flatMap_cons, List.length_append, List.length_cons]
      omega

theorem utf8_bytes_length_lt_iff {first second text : String}
    (left : first.toList <+: text.toList) (right : second.toList <+: text.toList) :
    (utf8Bytes first).length < (utf8Bytes second).length ↔ first.length < second.length := by
  rcases List.prefix_or_prefix_of_prefix left right with inside | inside
  · exact utf8_bytes_length_lt_iff_of_prefix inside
  · have notMore := inside.length_le
    have notMoreBytes := ((utf8_bytes_prefix_iff second first).mpr inside).length_le
    rw [String.length_toList, String.length_toList] at notMore
    omega

end FunctionKit.Text
