import Mathlib.Data.List.Forall2
import Mathlib.Data.List.TakeWhile
import FunctionKit.Text.Blank
import FunctionKit.Text.LowerCase

/-!
# Loose spellings

Words are read with blanks around them and in any letter case. What trimming leaves is the one part
of a text that neither starts nor ends with a blank while all around it is blank. Two texts are
alike if they differ only in the case of the 26 letters of ASCII. With capitals a text becomes a
word of capitals just if the two are alike. Of the characters beyond ASCII only the dotted capital
and the sign of the kelvin have small forms that reach into ASCII, with the letters i and k. So a
text whose small form is a word of other letters and digits is alike to that word too.
-/

namespace FunctionKit.Text

set_option autoImplicit false

/-! ## Trimming -/

/-- The middle of a text is what is left of it without the blanks around it. -/
def IsTrimOf (text middle : List Char) : Prop :=
  (∃ before after, text = before ++ middle ++ after ∧
      ∀ c ∈ before ++ after, isBlank c = true) ∧
    ∀ c, middle.head? = some c ∨ middle.getLast? = some c → isBlank c = false

theorem trim_start_of_blank {before : List Char} (blank : ∀ c ∈ before, isBlank c = true)
    (text : List Char) : trimStart (before ++ text) = trimStart text :=
  List.dropWhile_append_of_pos blank

theorem trim_start_of_head {text : List Char}
    (starts : ∀ c, text.head? = some c → isBlank c = false) : trimStart text = text := by
  cases text with
  | nil => rfl
  | cons c rest => exact List.dropWhile_cons_of_neg (by simp [starts c rfl])

theorem trim_start_splits (text : List Char) :
    ∃ before, text = before ++ trimStart text ∧ ∀ c ∈ before, isBlank c = true :=
  ⟨text.takeWhile isBlank, List.takeWhile_append_dropWhile.symm,
    fun _ member => List.mem_takeWhile_imp member⟩

theorem trim_start_starts (text : List Char) {c : Char}
    (starts : (trimStart text).head? = some c) : isBlank c = false := by
  have shown := List.head?_dropWhile_not isBlank text
  rw [trimStart] at starts
  rwa [starts] at shown

/-- The end is trimmed as the start of the reversed text. -/
theorem trim_end_eq (text : List Char) : trimEnd text = (trimStart text.reverse).reverse :=
  rfl

theorem trim_is_trim_of (text : List Char) : IsTrimOf text (trim text) := by
  obtain ⟨before, split, blankBefore⟩ := trim_start_splits text
  obtain ⟨behind, splitBehind, blankBehind⟩ := trim_start_splits (trimStart text).reverse
  have ended : trimStart text = trim text ++ behind.reverse := by
    have reversed := congrArg List.reverse splitBehind
    rw [List.reverse_reverse, List.reverse_append] at reversed
    exact reversed
  constructor
  · refine ⟨before, behind.reverse, ?_, ?_⟩
    · rw [List.append_assoc, ← ended]
      exact split
    · intro c member
      rcases List.mem_append.mp member with front | back
      · exact blankBefore c front
      · exact blankBehind c (List.mem_reverse.mp back)
  · rintro c (starts | ends)
    · apply trim_start_starts text
      rw [ended, List.head?_append, starts]
      rfl
    · apply trim_start_starts (trimStart text).reverse
      rw [trim, trim_end_eq, List.getLast?_reverse] at ends
      exact ends

theorem trim_eq_iff {text middle : List Char} : trim text = middle ↔ IsTrimOf text middle := by
  constructor
  · rintro rfl
    exact trim_is_trim_of text
  · rintro ⟨⟨before, after, rfl, blank⟩, ends⟩
    have blankBefore : ∀ c ∈ before, isBlank c = true :=
      fun c member => blank c (List.mem_append_left _ member)
    have blankAfter : ∀ c ∈ after.reverse, isBlank c = true :=
      fun c member => blank c (List.mem_append_right _ (List.mem_reverse.mp member))
    rw [trim, List.append_assoc, trim_start_of_blank blankBefore, trim_end_eq]
    cases middle with
    | nil =>
        -- all of the text is blank, and its start already takes everything
        have nothing : trimStart after = [] :=
          List.dropWhile_eq_nil_iff.mpr fun c member => blankAfter c (List.mem_reverse.mpr member)
        rw [List.nil_append, nothing]
        rfl
    | cons c rest =>
        have starts : trimStart (c :: rest ++ after) = c :: rest ++ after :=
          trim_start_of_head fun d first => ends d (.inl first)
        have stops : trimStart (c :: rest).reverse = (c :: rest).reverse :=
          trim_start_of_head fun d last => ends d (.inr (by rwa [← List.head?_reverse]))
        rw [starts, List.reverse_append, trim_start_of_blank blankAfter, stops,
          List.reverse_reverse]

theorem trim_eq_nil_iff (text : List Char) : trim text = [] ↔ allBlank text = true := by
  rw [trim_eq_iff, allBlank, List.all_eq_true]
  constructor
  · rintro ⟨⟨before, after, rfl, blank⟩, _⟩
    rwa [List.append_nil]
  · intro blank
    refine ⟨⟨text, [], by simp, by rwa [List.append_nil]⟩, ?_⟩
    rintro c (first | last)
    · cases first
    · cases last

/-! ## Letter case -/

/-- One of the 26 capitals and its small letter. -/
def IsCapitalOf (capital small : Char) : Prop :=
  'A'.toNat ≤ capital.toNat ∧ capital.toNat ≤ 'Z'.toNat ∧ small.toNat = capital.toNat + 32

def SameLetter (c d : Char) : Prop :=
  c = d ∨ IsCapitalOf c d ∨ IsCapitalOf d c

/-- The texts differ in nothing but the case of letters of ASCII. -/
def Alike : List Char → List Char → Prop :=
  List.Forall₂ SameLetter

theorem same_letter_iff (c d : Char) :
    SameLetter c d ↔ c.toNat = d.toNat ∨
      (65 ≤ c.toNat ∧ c.toNat ≤ 90 ∧ d.toNat = c.toNat + 32) ∨
      65 ≤ d.toNat ∧ d.toNat ≤ 90 ∧ c.toNat = d.toNat + 32 := by
  rw [SameLetter, Char.toNat_inj]
  rfl

/-! ## Capitals -/

theorem is_lower_iff (c : Char) : c.isLower = true ↔ 97 ≤ c.toNat ∧ c.toNat ≤ 122 := by
  have shape : c.isLower = (decide (97 ≤ c.val) && decide (c.val ≤ 122)) := rfl
  rw [shape, Bool.and_eq_true, decide_eq_true_iff, decide_eq_true_iff, UInt32.le_iff_toNat_le,
    UInt32.le_iff_toNat_le]
  rfl

theorem to_upper_code (c : Char) :
    c.toUpper.toNat = if c.isLower then c.toNat - 32 else c.toNat := by
  have bounds : ('a'.val ≤ c.val ∧ c.val ≤ 'z'.val) ↔ 97 ≤ c.toNat ∧ c.toNat ≤ 122 := by
    simp [UInt32.le_iff_toNat_le]
  unfold Char.toUpper
  by_cases small : c.isLower = true
  · have codes := (is_lower_iff c).mp small
    have shift : ('A'.val - 'a'.val).toNat = 2 ^ 32 - 32 := rfl
    have code : c.val.toNat = c.toNat := rfl
    rw [dif_pos (bounds.mpr codes), if_pos small]
    change (c.val + ('A'.val - 'a'.val)).toNat = c.toNat - 32
    rw [UInt32.toNat_add, shift, code]
    omega
  · have outside := mt (is_lower_iff c).mpr small
    rw [dif_neg (mt bounds.mp outside), if_neg small]

theorem to_upper_eq_iff {c d : Char} (capital : ¬d.isLower = true) :
    c.toUpper = d ↔ SameLetter c d := by
  rw [is_lower_iff] at capital
  rw [← Char.toNat_inj, to_upper_code, same_letter_iff]
  split
  · rename_i small
    have bounds := (is_lower_iff c).mp small
    omega
  · rename_i other
    rw [is_lower_iff] at other
    omega

theorem map_to_upper_eq_iff {text word : List Char} (capitals : ∀ d ∈ word, ¬d.isLower = true) :
    text.map Char.toUpper = word ↔ Alike text word := by
  induction text generalizing word with
  | nil =>
      rw [List.map_nil, Alike, List.forall₂_nil_left_iff]
      exact eq_comm
  | cons c text ih =>
      cases word with
      | nil => simp [Alike]
      | cons d word =>
          have first := to_upper_eq_iff (c := c) (capitals d List.mem_cons_self)
          have later := ih fun other member => capitals other (List.mem_cons_of_mem d member)
          rw [List.map_cons, List.cons.injEq, first, later]
          exact List.forall₂_cons.symm

theorem letters_of_alike {text word : List Char} (alike : Alike text word)
    (capitals : ∀ d ∈ word, 65 ≤ d.toNat ∧ d.toNat ≤ 90) :
    ∀ c ∈ text, 65 ≤ c.toNat ∧ c.toNat ≤ 122 := by
  induction alike with
  | nil => exact List.forall_mem_nil _
  | @cons c d text word same _ ih =>
      have capital := capitals d List.mem_cons_self
      rw [same_letter_iff] at same
      have first : 65 ≤ c.toNat ∧ c.toNat ≤ 122 := by omega
      exact List.forall_mem_cons.mpr
        ⟨first, ih fun other member => capitals other (List.mem_cons_of_mem d member)⟩

/-! ## Small forms -/

/-- The digits, and the small letters that are the small form of one capital only. -/
def IsPlain (c : Char) : Prop :=
  (c.isDigit = true ∨ c.isLower = true) ∧ c ≠ 'i' ∧ c ≠ 'k'

theorem IsPlain.codes {c : Char} (plain : IsPlain c) :
    (48 ≤ c.toNat ∧ c.toNat ≤ 57 ∨ 97 ≤ c.toNat ∧ c.toNat ≤ 122) ∧
      c.toNat ≠ 105 ∧ c.toNat ≠ 107 := by
  obtain ⟨kind, notI, notK⟩ := plain
  rw [is_lower_iff, Char.isDigit_iff_toNat] at kind
  exact ⟨kind, fun same => notI (Char.toNat_inj.mp same), fun same => notK (Char.toNat_inj.mp same)⟩

theorem ascii_small_code : ∀ code < 128,
    smallCode code = if 65 ≤ code ∧ code ≤ 90 then code + 32 else code := by
  decide +kernel

theorem small_codes_of_table : ∀ capitals ∈ capitalTable, capitals.last < 128 ∨
    128 ≤ Int.ofNat capitals.first + capitals.shift ∨
      capitals.first = capitals.last ∧ Int.ofNat capitals.first + capitals.shift = 107 := by
  decide +kernel

/-- Beyond ASCII only the sign of the kelvin has a small form of one character in ASCII. -/
theorem small_code_beyond {code : Nat} (beyond : 128 ≤ code) :
    128 ≤ smallCode code ∨ smallCode code = 107 := by
  unfold smallCode
  split
  · rename_i capitals found
    have holds := List.find?_some found
    simp only [Capitals.holds, Bool.and_eq_true, decide_eq_true_eq] at holds
    obtain ⟨⟨first, last⟩, _⟩ := holds
    have shifted := small_codes_of_table capitals (List.mem_of_find?_eq_some found)
    simp only [Int.ofNat_eq_natCast] at shifted ⊢
    omega
  · exact .inl beyond

theorem of_nat_eq_iff {code : Nat} {d : Char} (apart : d.toNat ≠ 0) :
    Char.ofNat code = d ↔ code = d.toNat := by
  constructor
  · rintro rfl
    by_cases valid : code.isValidChar
    · have made : Char.ofNat code = Char.ofNatAux code valid := dif_pos valid
      rw [made]
      rfl
    · -- what is no code of a character gives the character zero
      have zero : Char.ofNat code = '\x00' := dif_neg valid
      rw [zero] at apart
      exact absurd rfl apart
  · rintro rfl
    exact Char.ofNat_toNat d

theorem small_form_eq_iff {c d : Char} (plain : IsPlain d) :
    smallForm? c = some [d] ↔ SameLetter c d := by
  have codes := plain.codes
  rw [same_letter_iff]
  by_cases sigma : c = 'Σ'
  · subst sigma
    have code : 'Σ'.toNat = 931 := rfl
    rw [code]
    simp only [smallForm?, if_true, reduceCtorEq, false_iff]
    omega
  by_cases dotted : c = 'İ'
  · subst dotted
    have code : 'İ'.toNat = 304 := rfl
    rw [code]
    simp only [smallForm?, if_true, if_neg sigma, Option.some.injEq, List.cons.injEq,
      List.cons_ne_nil, and_false, false_iff]
    omega
  · rw [smallForm?, if_neg sigma, if_neg dotted, Option.some.injEq, List.cons.injEq,
      and_iff_left rfl, of_nat_eq_iff (by omega)]
    by_cases ascii : c.toNat < 128
    · rw [ascii_small_code c.toNat ascii]
      split <;> omega
    · have beyond := small_code_beyond (Nat.le_of_not_lt ascii)
      omega

theorem small_form_cases (c : Char) :
    smallForm? c = none ∨ smallForm? c = some ['i', '\u0307'] ∨
      ∃ small, smallForm? c = some [small] := by
  unfold smallForm?
  split
  · exact .inl rfl
  · split
    · exact .inr (.inl rfl)
    · exact .inr (.inr ⟨_, rfl⟩)

theorem lower_case_cons_eq_some_iff {c : Char} {text word : List Char} :
    lowerCase? (c :: text) = some word ↔
      ∃ small others, smallForm? c = some small ∧ lowerCase? text = some others ∧
        small ++ others = word := by
  simp only [lowerCase?, Option.bind_eq_bind, Option.bind_eq_some_iff, Option.pure_def,
    Option.some.injEq]
  constructor
  · rintro ⟨small, form, others, later, joined⟩
    exact ⟨small, others, form, later, joined⟩
  · rintro ⟨small, others, form, later, joined⟩
    exact ⟨small, form, others, later, joined⟩

/-- Whatever alphabet it is in, a text whose small form is a plain word is alike to the word. -/
theorem lower_case_eq_iff {text word : List Char} (plain : ∀ d ∈ word, IsPlain d) :
    lowerCase? text = some word ↔ Alike text word := by
  induction text generalizing word with
  | nil =>
      rw [lowerCase?, Alike, List.forall₂_nil_left_iff, Option.some.injEq]
      exact eq_comm
  | cons c text ih =>
      rw [lower_case_cons_eq_some_iff]
      constructor
      · rintro ⟨small, others, form, later, rfl⟩
        -- a plain word does not begin with the dotted letter, so the form is a single letter
        rcases small_form_cases c with nothing | dotted | ⟨letter, single⟩
        · rw [nothing] at form
          cases form
        · rw [dotted] at form
          cases form
          exact absurd rfl (plain 'i' List.mem_cons_self).2.1
        · rw [single] at form
          cases form
          have first := (small_form_eq_iff (plain letter List.mem_cons_self)).mp single
          have rest := (ih fun d member => plain d (List.mem_cons_of_mem letter member)).mp later
          exact .cons first rest
      · intro alike
        cases alike with
        | @cons _ d _ word same rest =>
            have first := (small_form_eq_iff (plain d List.mem_cons_self)).mpr same
            have later :=
              (ih fun other member => plain other (List.mem_cons_of_mem d member)).mpr rest
            exact ⟨[d], word, first, later, rfl⟩

end FunctionKit.Text
