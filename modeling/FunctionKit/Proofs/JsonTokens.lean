import Mathlib.Data.Nat.Digits.Defs
import FunctionKit.Json.Printer
import FunctionKit.Json.Reader

/-!
# Reading back numerals, strings and gaps

The readers of numerals and strings give back what was written and stop right behind it. A numeral
is only over where nothing follows that could belong to it.
-/

namespace FunctionKit

set_option autoImplicit false

/-- A whole number that fits a signed or an unsigned word of 64 bits. -/
def Number.IsWord (number : Number) : Prop :=
  number.Representable ∧ ∃ value, number = .whole value

namespace Json

open FunctionKit.Text

/-! ## Decimal digits -/

theorem digits_are_digits (n : Nat) : ∀ c ∈ digits n, c.isDigit = true :=
  fun _ member => Nat.isDigit_of_mem_toDigits (by decide) (by decide) member

theorem digits_value_from_eq (run : List Char) (seen : Nat) :
    digitsValueFrom seen run = Nat.ofDigitChars 10 run seen := by
  rw [Nat.ofDigitChars_eq_foldl]
  unfold digitsValueFrom digitValue
  simp only [Nat.mul_comm]

theorem digits_value_digits (n : Nat) : digitsValueFrom 0 (digits n) = n := by
  rw [digits_value_from_eq]
  exact Nat.ofDigitChars_ten_toDigits

theorem digits_value_grows (run : List Char) (seen : Nat) : seen ≤ digitsValueFrom seen run := by
  induction run generalizing seen with
  | nil => exact le_rfl
  | cons c rest ih =>
      have step : seen ≤ seen * 10 + digitValue c := by omega
      exact step.trans (ih _)

theorem digit_char_ne_zero : ∀ n < 10, 0 < n → Nat.digitChar n ≠ '0' := by
  decide

theorem digits_start (n : Nat) (positive : 0 < n) : (digits n).head? ≠ some '0' := by
  induction n using Nat.strong_induction_on with
  | _ n ih =>
      unfold digits at ih ⊢
      by_cases small : n < 10
      · rw [Nat.toDigits_of_lt_base small]
        intro zero
        exact digit_char_ne_zero n small positive (Option.some.inj zero)
      · have shorter := ih (n / 10) (by omega) (by omega)
        rw [Nat.toDigits_of_base_le (by decide) (by omega)]
        cases shown : Nat.toDigits 10 (n / 10) with
        | nil => exact absurd shown Nat.toDigits_ne_nil
        | cons first more =>
            rw [shown] at shorter
            exact shorter

/-! ## Numerals -/

def EndsNumeral (rest : List Char) : Prop :=
  ∀ c, rest.head? = some c → c.isDigit = false ∧ c ≠ '.' ∧ isExponentMark c = false

theorem keep_whole_of_fits (run : List Char) (kept : Nat)
    (fits : digitsValueFrom kept run < 2 ^ 64) :
    keepWhole kept 0 run = (digitsValueFrom kept run, 0) := by
  induction run generalizing kept with
  | nil => rfl
  | cons c rest ih =>
      have next : kept * 10 + digitValue c < 2 ^ 64 :=
        (digits_value_grows rest _).trans_lt fits
      have kept : fitsWord (kept * 10 + digitValue c) = true := by
        simpa [fitsWord] using next
      simp only [keepWhole, kept, decide_true, Bool.and_self, if_true]
      exact ih _ fits

theorem finish_whole_of_end (negative : Bool) (kept : Nat) {rest : List Char}
    (ends : EndsNumeral rest) :
    finishWhole negative kept 0 rest = .ok (wholeNumber negative kept, rest) := by
  cases rest with
  | nil => rfl
  | cons c rest =>
      obtain ⟨_, noPoint, noMark⟩ := ends c rfl
      unfold finishWhole
      split
      · rename_i same
        cases same
        exact absurd rfl noPoint
      · rename_i same
        cases same
        simp [noMark]
      · rename_i same
        cases same

theorem read_magnitude_digits (negative : Bool) (n : Nat) (fits : n < 2 ^ 64) {rest : List Char}
    (ends : EndsNumeral rest) :
    readMagnitude negative (digits n ++ rest) = .ok (wholeNumber negative n, rest) := by
  have stops : rest.takeWhile Char.isDigit = [] ∧ rest.dropWhile Char.isDigit = rest := by
    cases rest with
    | nil => exact ⟨rfl, rfl⟩
    | cons c rest =>
      have noDigit := (ends c rfl).1
      simp [noDigit]
  have run : (digits n ++ rest).takeWhile Char.isDigit = digits n := by
    rw [List.takeWhile_append_of_pos (digits_are_digits n), stops.1, List.append_nil]
  have after : (digits n ++ rest).dropWhile Char.isDigit = rest := by
    rw [List.dropWhile_append_of_pos (digits_are_digits n), stops.2]
  have kept : keepWhole 0 0 (digits n) = (n, 0) := by
    have value := digits_value_digits n
    rw [keep_whole_of_fits _ _ (by rw [value]; exact fits), value]
  unfold readMagnitude
  rw [run, after]
  split
  · rename_i empty
    exact absurd empty Nat.toDigits_ne_nil
  · rename_i shape
    by_cases zero : n = 0
    · subst zero
      cases shape
    · exact absurd (by rw [shape]; rfl) (digits_start n (by omega))
  · simp only [kept]
    exact finish_whole_of_end negative n ends

theorem read_number_whole {number : Number} (word : number.IsWord) {rest : List Char}
    (ends : EndsNumeral rest) :
    readNumber (renderNumber number ++ rest) = .ok (number, rest) := by
  obtain ⟨representable, value, rfl⟩ := word
  obtain ⟨low, high⟩ : -Int.pow 2 63 ≤ value ∧ value < Int.pow 2 64 := representable
  have lowest : Int.pow 2 63 = 2 ^ 63 := rfl
  have highest : Int.pow 2 64 = 2 ^ 64 := rfl
  rw [lowest] at low
  rw [highest] at high
  cases value with
  | ofNat n =>
      have fits : n < 2 ^ 64 := by
        rw [Int.ofNat_eq_natCast] at high
        omega
      have read := read_magnitude_digits false n fits ends
      change readNumber (digits n ++ rest) = _
      unfold readNumber
      split
      · rename_i more shape
        have sign : '-' ∈ digits n := by
          cases shown : digits n with
          | nil => exact absurd shown Nat.toDigits_ne_nil
          | cons first others =>
              rw [shown, List.cons_append, List.cons.injEq] at shape
              rw [← shape.1]
              exact List.mem_cons_self
        exact absurd (digits_are_digits n _ sign) (by decide)
      · exact read
  | negSucc n =>
      have fits : n + 1 ≤ 2 ^ 63 := by
        omega
      have read := read_magnitude_digits true (n + 1) (by omega) ends
      have negative : wholeNumber true (n + 1) = .whole (.negSucc n) := by
        have small : n + 1 ≤ Nat.pow 2 63 := fits
        simp only [wholeNumber, Bool.not_true, Bool.false_eq_true, if_false, Nat.succ_pos,
          decide_true, small, Bool.and_self, if_true]
        rfl
      rw [negative] at read
      change readNumber ('-' :: (digits (n + 1) ++ rest)) = _
      unfold readNumber
      exact read

/-- How the text of a number starts. -/
def StartsNumber (c : Char) : Prop :=
  c = '-' ∨ c.isDigit = true

theorem StartsNumber.apart {c : Char} (starts : StartsNumber c) (other : Char)
    (noSign : other ≠ '-') (noDigit : other.isDigit = false) : c ≠ other := by
  intro same
  subst same
  rcases starts with sign | digit
  · exact noSign sign
  · rw [noDigit] at digit
    cases digit

theorem StartsNumber.no_gap {c : Char} (starts : StartsNumber c) : isGap c = false := by
  have blank := starts.apart ' ' (by decide) (by decide)
  have tab := starts.apart '\t' (by decide) (by decide)
  have newline := starts.apart '\n' (by decide) (by decide)
  have back := starts.apart '\r' (by decide) (by decide)
  simp [isGap, blank, tab, newline, back]

theorem number_starts {number : Number} (word : number.IsWord) :
    ∃ c more, renderNumber number = c :: more ∧ StartsNumber c := by
  obtain ⟨_, value, rfl⟩ := word
  cases value with
  | ofNat n =>
      cases shown : digits n with
      | nil => exact absurd shown Nat.toDigits_ne_nil
      | cons first more =>
          have digit := digits_are_digits n first (by rw [shown]; exact List.mem_cons_self)
          exact ⟨first, more, shown, .inr digit⟩
  | negSucc n => exact ⟨'-', digits (n + 1), rfl, .inl rfl⟩

/-! ## Strings -/

theorem short_of_four_long (a b c d : Char) (rest : List Char) :
    shortOfFour (a :: b :: c :: d :: rest) = false := by
  have first := a.utf8Size_pos
  have second := b.utf8Size_pos
  have third := c.utf8Size_pos
  have fourth := d.utf8Size_pos
  have long : ¬0 + a.utf8Size + b.utf8Size + c.utf8Size + d.utf8Size < 4 := by omega
  exact decide_eq_false long

theorem control_digits : ∀ n < 0x20,
    hexDigitsPadded 4 n = ['0', '0', Nat.digitChar (n / 16), Nat.digitChar (n % 16)] := by
  decide

theorem hex_value_digit_char : ∀ n < 16, hexValue? (Nat.digitChar n) = some n := by
  decide

/-- The four digits after the mark of a numbered escape give back the control. -/
theorem read_control (c : Char) (control : c.toNat < 0x20) (rest : List Char) :
    readChars .escaped ('u' :: (hexDigitsPadded 4 c.toNat ++ rest)) =
      prependTo c (readChars .plain rest) := by
  have zero : hexValue? '0' = some 0 := rfl
  have high := hex_value_digit_char (c.toNat / 16) (by omega)
  have low := hex_value_digit_char (c.toNat % 16) (by omega)
  have value : ((0 * 16 + 0) * 16 + c.toNat / 16) * 16 + c.toNat % 16 = c.toNat := by omega
  have meaning : unitMeaning none c.toNat = .character c := by
    have notLow : ¬0xDC00 ≤ c.toNat := by omega
    have notHigh : ¬0xD800 ≤ c.toNat := by omega
    simp [unitMeaning, notLow, notHigh]
  rw [control_digits c.toNat control]
  simp only [List.cons_append, List.nil_append, readChars, if_true, short_of_four_long,
    Bool.false_eq_true, if_false, zero, high, low]
  simp only [Nat.zero_mul, Nat.zero_add] at value ⊢
  rw [value, meaning]

theorem read_chars_escaped (c : Char) (rest : List Char) :
    readChars .plain (escapedChar c ++ rest) = prependTo c (readChars .plain rest) := by
  unfold escapedChar
  split_ifs with quote slash back tab line form carriage control
  · rw [quote]
    simp [readChars, shortEscape?]
  · rw [slash]
    simp [readChars, shortEscape?]
  · rw [back]
    simp [readChars, shortEscape?]
  · rw [tab]
    simp [readChars, shortEscape?]
  · rw [line]
    simp [readChars, shortEscape?]
  · rw [form]
    simp [readChars, shortEscape?]
  · rw [carriage]
    simp [readChars, shortEscape?]
  · have marked : readChars .plain ('\\' :: 'u' :: (hexDigitsPadded 4 c.toNat ++ rest)) =
        readChars .escaped ('u' :: (hexDigitsPadded 4 c.toNat ++ rest)) := by
      rw [readChars, if_neg (by decide), if_pos rfl]
    exact marked.trans (read_control c control rest)
  · simp [readChars, quote, slash, control]

theorem read_chars_render (chars rest : List Char) :
    readChars .plain (renderChars chars ++ rest) = .ok (chars, rest) := by
  induction chars with
  | nil => simp [renderChars, readChars]
  | cons c chars ih =>
      rw [renderChars, List.append_assoc, read_chars_escaped, ih]
      rfl

theorem read_string_render (text : String) (rest : List Char) :
    readString (renderChars text.toList ++ rest) = .ok (text, rest) := by
  unfold readString
  rw [read_chars_render]
  simp

/-! ## Gaps -/

theorem skip_gaps_of_gaps {gaps : List Char} (areGaps : ∀ c ∈ gaps, isGap c = true)
    (text : List Char) : skipGaps (gaps ++ text) = skipGaps text :=
  List.dropWhile_append_of_pos areGaps

theorem skip_gaps_of_start {c : Char} (start : isGap c = false) (rest : List Char) :
    skipGaps (c :: rest) = c :: rest := by
  simp [skipGaps, start]

theorem ends_numeral_of_gaps {gaps : List Char} (areGaps : ∀ c ∈ gaps, isGap c = true) :
    EndsNumeral gaps := by
  intro c head
  have gap := areGaps c (List.mem_of_mem_head? head)
  simp only [isGap, Bool.or_eq_true, decide_eq_true_eq] at gap
  rcases gap with ((rfl | rfl) | rfl) | rfl <;> decide

end Json

end FunctionKit
