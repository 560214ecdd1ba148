import FunctionKit.Logging.Level
import FunctionKit.Proofs.JsonTokens
import FunctionKit.Proofs.LooseSpellings

/-!
# Spellings of levels

A level is spelled by its number, with zeros and a plus sign in front or not, or by one of its names
in any letter case. Main statement: a text is read as a level just if what trimming leaves of it
spells the level, and any other text is refused with what trimming leaves. So the names and the
numbers are read back, whatever blanks stand around them. Numerals and names share no text: a numeral
of no level is therefore refused, although names are looked up only where no small number is read.
-/

namespace FunctionKit.Logging

set_option autoImplicit false

open FunctionKit.Text

/-- Digits, at least one and as many zeros in front as there may be, after at most one plus sign. -/
def IsNumeralOf (value : Nat) (text : List Char) : Prop :=
  ∃ sign run, text = sign ++ run ∧ (sign = [] ∨ sign = ['+']) ∧ run ≠ [] ∧
    (∀ c ∈ run, c.isDigit = true) ∧ Nat.ofDigitChars 10 run 0 = value

namespace Level

/-- The name of a level beside the one it is shown by. -/
def otherName? : Level → Option String
  | .warning => some "WARN"
  | .critical => some "FATAL"
  | _ => none

def IsNamed (level : Level) (name : String) : Prop :=
  level.name = name ∨ level.otherName? = some name

inductive Spelled (level : Level) : List Char → Prop
  | number {text : List Char} (numeral : IsNumeralOf level.value text) : Spelled level text
  | name {text : List Char} {name : String} (named : level.IsNamed name)
      (alike : Alike text name.toList) : Spelled level text

/-- The level that a text without blanks around it is read as. -/
def read? (trimmed : List Char) : Option Level :=
  match readOctet? trimmed with
  | some value => ofValue? value
  | none => ofName? (String.ofList (trimmed.map Char.toUpper))

theorem of_text_eq (text : String) :
    ofText text = match read? (trim text.toList) with
      | some level => .ok level
      | none => .error ⟨String.ofList (trim text.toList)⟩ :=
  rfl

/-- A text is refused with what trimming leaves of it. -/
theorem of_text_error_iff (text : String) (unknown : UnknownLevel) :
    ofText text = .error unknown ↔
      unknown = ⟨String.ofList (trim text.toList)⟩ ∧ ∀ level, ofText text ≠ .ok level := by
  rw [of_text_eq]
  cases read? (trim text.toList) <;> simp [eq_comm]

/-! ## Numerals -/

theorem numeral_characters {value : Nat} {text : List Char} (numeral : IsNumeralOf value text) :
    ∀ c ∈ text, 43 ≤ c.toNat ∧ c.toNat ≤ 57 := by
  obtain ⟨sign, run, rfl, signed, _, digits, _⟩ := numeral
  intro c member
  rcases List.mem_append.mp member with front | back
  · rcases signed with rfl | rfl
    · exact absurd front List.not_mem_nil
    · rw [List.mem_singleton.mp front]
      decide
  · have code : 48 ≤ c.toNat ∧ c.toNat ≤ 57 := Char.isDigit_iff_toNat.mp (digits c back)
    omega

theorem numeral_ne_nil {value : Nat} {text : List Char} (numeral : IsNumeralOf value text) :
    text ≠ [] := by
  obtain ⟨sign, run, rfl, _, filled, _, _⟩ := numeral
  exact List.append_ne_nil_of_right_ne_nil sign filled

/-- What follows the plus sign that a text may start with. -/
def unsigned : List Char → List Char
  | '+' :: rest => rest
  | rest => rest

theorem unsigned_of_digits {run : List Char} (digits : ∀ c ∈ run, c.isDigit = true) :
    unsigned run = run := by
  unfold unsigned
  split
  · exact absurd (digits '+' List.mem_cons_self) (by decide)
  · rfl

theorem unsigned_splits (text : List Char) :
    ∃ sign, text = sign ++ unsigned text ∧ (sign = [] ∨ sign = ['+']) := by
  unfold unsigned
  split
  · exact ⟨['+'], rfl, .inr rfl⟩
  · exact ⟨[], rfl, .inl rfl⟩

theorem numeral_iff (value : Nat) (text : List Char) :
    IsNumeralOf value text ↔ unsigned text ≠ [] ∧ (∀ c ∈ unsigned text, c.isDigit = true) ∧
      Nat.ofDigitChars 10 (unsigned text) 0 = value := by
  constructor
  · rintro ⟨sign, run, rfl, rfl | rfl, filled, digits, counted⟩
    · rw [List.nil_append, unsigned_of_digits digits]
      exact ⟨filled, digits, counted⟩
    · exact ⟨filled, digits, counted⟩
  · rintro ⟨filled, digits, counted⟩
    obtain ⟨sign, split, signed⟩ := unsigned_splits text
    exact ⟨sign, unsigned text, split, signed, filled, digits, counted⟩

theorem read_octet_eq (text : List Char) :
    readOctet? text =
      if (unsigned text).isEmpty || !(unsigned text).all Char.isDigit then none
      else if digitsValue (unsigned text) < 256 then some (digitsValue (unsigned text)) else none :=
  rfl

theorem read_octet_iff (value : Nat) (text : List Char) :
    readOctet? text = some value ↔ IsNumeralOf value text ∧ value < 256 := by
  have counted : digitsValue (unsigned text) = Nat.ofDigitChars 10 (unsigned text) 0 :=
    Json.digits_value_from_eq (unsigned text) 0
  have run : ((unsigned text).isEmpty || !(unsigned text).all Char.isDigit) = true ↔
      ¬(unsigned text ≠ [] ∧ ∀ c ∈ unsigned text, c.isDigit = true) := by
    rw [Bool.or_eq_true, Bool.not_eq_true', List.isEmpty_iff, ← Bool.not_eq_true, List.all_eq_true]
    tauto
  rw [read_octet_eq, numeral_iff, counted]
  split
  · rename_i noRun
    rw [run] at noRun
    tauto
  · rename_i isRun
    rw [run, not_not] at isRun
    split
    · rename_i small
      simp only [Option.some.injEq]
      constructor
      · rintro rfl
        exact ⟨⟨isRun.1, isRun.2, rfl⟩, small⟩
      · exact fun numeral => numeral.1.2.2
    · rename_i large
      simp only [false_iff, reduceCtorEq]
      rintro ⟨⟨_, _, rfl⟩, small⟩
      exact large small

theorem numeral_of_digits (zeros n : Nat) : IsNumeralOf n (List.replicate zeros '0' ++ digits n) := by
  refine ⟨[], List.replicate zeros '0' ++ digits n, rfl, .inl rfl, ?_, ?_, ?_⟩
  · exact List.append_ne_nil_of_right_ne_nil _ Nat.toDigits_ne_nil
  · intro c member
    rcases List.mem_append.mp member with front | back
    · rw [List.eq_of_mem_replicate front]
      decide
    · exact Json.digits_are_digits n c back
  · have nothing : Nat.ofDigitChars 10 (List.replicate zeros '0') 0 = 0 := by
      induction zeros with
      | zero => rfl
      | succ zeros ih => exact ih
    rw [Nat.ofDigitChars_append, nothing]
    exact Nat.ofDigitChars_ten_toDigits

/-! ## Names -/

theorem of_value_iff (value : Nat) (level : Level) :
    ofValue? value = some level ↔ level.value = value := by
  constructor
  · intro found
    have valued := List.find?_some found
    exact of_decide_eq_true valued
  · rintro rfl
    cases level <;> rfl

theorem of_name_iff (name : String) (level : Level) :
    ofName? name = some level ↔ level.IsNamed name := by
  constructor
  · intro found
    unfold ofName? at found
    split at found
    · rename_i warning
      cases found
      exact .inr (congrArg some warning.symm)
    · split at found
      · rename_i fatal
        cases found
        exact .inr (congrArg some fatal.symm)
      · have named := List.find?_some found
        exact .inl (of_decide_eq_true named)
  · rintro (rfl | other)
    · cases level <;> rfl
    · cases level <;> cases other <;> rfl

section Named

variable {level : Level} {name : String} {text : List Char}

theorem IsNamed.capitals (named : level.IsNamed name) :
    ∀ d ∈ name.toList, 65 ≤ d.toNat ∧ d.toNat ≤ 90 := by
  rcases named with rfl | other
  · cases level <;> simp [Level.name]
  · cases level <;> cases other <;> simp

theorem IsNamed.spelled_iff (named : level.IsNamed name) :
    String.ofList (text.map Char.toUpper) = name ↔ Alike text name.toList := by
  rw [← String.toList_inj, String.toList_ofList]
  apply map_to_upper_eq_iff
  intro d member lower
  have capital := named.capitals d member
  rw [is_lower_iff] at lower
  omega

theorem IsNamed.no_octet (named : level.IsNamed name) (alike : Alike text name.toList) :
    readOctet? text = none := by
  cases read : readOctet? text with
  | none => rfl
  | some value =>
      have numeral := ((read_octet_iff value text).mp read).1
      obtain ⟨c, member⟩ := List.exists_mem_of_ne_nil text (numeral_ne_nil numeral)
      have digit := numeral_characters numeral c member
      have letter := letters_of_alike alike named.capitals c member
      omega

end Named

/-! ## Reading -/

theorem read_iff (trimmed : List Char) (level : Level) :
    read? trimmed = some level ↔ level.Spelled trimmed := by
  constructor
  · intro read
    unfold read? at read
    split at read
    · rename_i value octet
      have valued := (of_value_iff value level).mp read
      exact .number (valued ▸ ((read_octet_iff value trimmed).mp octet).1)
    · have named := (of_name_iff _ level).mp read
      exact .name named (named.spelled_iff.mp rfl)
  · intro spelled
    cases spelled with
    | number numeral =>
        have small : level.value < 256 := by cases level <;> decide
        rw [read?, (read_octet_iff level.value trimmed).mpr ⟨numeral, small⟩]
        exact (of_value_iff _ level).mpr rfl
    | name named alike =>
        rw [read?, named.no_octet alike, named.spelled_iff.mpr alike]
        exact (of_name_iff _ level).mpr named

theorem spelled_characters {level : Level} {text : List Char} (spelled : level.Spelled text) :
    ∀ c ∈ text, 43 ≤ c.toNat ∧ c.toNat ≤ 122 := by
  intro c member
  cases spelled with
  | number numeral =>
      have digit := numeral_characters numeral c member
      omega
  | name named alike =>
      have letter := letters_of_alike alike named.capitals c member
      omega

theorem is_blank_eq_false {c : Char} (codes : 43 ≤ c.toNat ∧ c.toNat ≤ 122) :
    isBlank c = false := by
  have apart : ∀ range ∈ blankRanges, range.2 < 43 ∨ 122 < range.1 := by decide
  refine List.any_eq_false.mpr fun range member within => ?_
  simp only [Bool.and_eq_true, decide_eq_true_eq] at within
  have outside := apart range member
  omega

/-- Spellings have no blanks, so any that stand around one are taken off. -/
theorem of_text_between_blanks {level : Level} {before written after : List Char}
    (blank : ∀ c ∈ before ++ after, isBlank c = true) (spelled : level.Spelled written) :
    ofText (String.ofList (before ++ written ++ after)) = .ok level := by
  have characters := spelled_characters spelled
  have trimmed : trim (before ++ written ++ after) = written := by
    rw [trim_eq_iff]
    refine ⟨⟨before, after, rfl, blank⟩, ?_⟩
    rintro c (first | last)
    · exact is_blank_eq_false (characters c (List.mem_of_mem_head? first))
    · exact is_blank_eq_false (characters c (List.mem_of_getLast? last))
  rw [of_text_eq, String.toList_ofList, trimmed, (read_iff written level).mpr spelled]

/-- What trimming leaves of a text decides: if it spells a level, that level is read, and otherwise
it is refused as it is. A level is read from its name in any letter case and from its number with any
zeros in front, whatever blanks stand around. -/
theorem levels_are_read_by_their_spellings (text : String) :
    let trimmed := trim text.toList
    IsTrimOf text.toList trimmed ∧
      (∀ level, ofText text = .ok level ↔ level.Spelled trimmed) ∧
      (∀ unknown, ofText text = .error unknown ↔
        unknown = ⟨String.ofList trimmed⟩ ∧ ∀ level : Level, ¬level.Spelled trimmed) ∧
      ∀ (level : Level) (before after : List Char), (∀ c ∈ before ++ after, isBlank c = true) →
        (∀ written, Alike written level.name.toList →
          ofText (String.ofList (before ++ written ++ after)) = .ok level) ∧
        ∀ zeros, ofText (String.ofList
          (before ++ (List.replicate zeros '0' ++ digits level.value) ++ after)) = .ok level := by
  intro trimmed
  have spelled : ∀ level, ofText text = .ok level ↔ level.Spelled trimmed := by
    intro level
    rw [← read_iff, of_text_eq]
    cases read? trimmed <;> simp
  refine ⟨trim_is_trim_of text.toList, spelled, ?_, ?_⟩
  · intro unknown
    simp only [of_text_error_iff, Ne, spelled]
    rfl
  · intro level before after blank
    exact ⟨fun written alike => of_text_between_blanks blank (.name (.inl rfl) alike),
      fun zeros => of_text_between_blanks blank (.number (numeral_of_digits zeros level.value))⟩

/-- A number too large for a byte is looked up as a name, which it is not. -/
example : ofText "\u2003+0030\n" = .ok .warning ∧ ofText " 0300" = .error ⟨"0300"⟩ := by
  decide +kernel

end Level

end FunctionKit.Logging
