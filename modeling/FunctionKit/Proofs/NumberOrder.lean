import Mathlib.Algebra.Order.Field.Power
import Mathlib.Algebra.Order.Ring.Rat
import Mathlib.Order.Monotone.Odd
import Mathlib.Tactic.NormNum
import FunctionKit.Binary64.Basic

/-!
# The order of numbers by their values

The place of a number on the line grows with its value. Both tell how often the number holds the
least one above zero: the body counts numbers, and with every body that is one greater the count of
least numbers grows, whether within one exponent or to the next. So numbers are compared as their
values are.
-/

namespace FunctionKit.Binary64

set_option autoImplicit false

/-- What a finite number stands for. The two zeros stand for the same. -/
def value (x : Binary64) : ℚ :=
  (if x.isNegative then -1 else 1) * x.significand * 2 ^ x.exponent

/-! ## Counting least numbers -/

/-- How many times the magnitude with a body holds the least one above zero. -/
def units (body : Nat) : Nat :=
  if body / 2 ^ 52 = 0 then body
  else (2 ^ 52 + body % 2 ^ 52) * 2 ^ (body / 2 ^ 52 - 1)

theorem units_subnormal {fraction : Nat} (small : fraction < 2 ^ 52) :
    units fraction = fraction :=
  if_pos (Nat.div_eq_of_lt small)

theorem units_normal {fraction : Nat} (small : fraction < 2 ^ 52) (place : Nat) :
    units (2 ^ 52 * (place + 1) + fraction) = (2 ^ 52 + fraction) * 2 ^ place := by
  have exponent : (2 ^ 52 * (place + 1) + fraction) / 2 ^ 52 = place + 1 := by omega
  have rest : (2 ^ 52 * (place + 1) + fraction) % 2 ^ 52 = fraction := by omega
  rw [units, exponent, rest, if_neg (Nat.succ_ne_zero place), Nat.add_sub_cancel]

theorem units_lt_succ (body : Nat) : units body < units (body + 1) := by
  obtain ⟨exponent, fraction, small, rfl⟩ : ∃ exponent fraction, fraction < 2 ^ 52 ∧
      body = 2 ^ 52 * exponent + fraction :=
    ⟨body / 2 ^ 52, body % 2 ^ 52, Nat.mod_lt _ (by decide), (Nat.div_add_mod ..).symm⟩
  by_cases last : fraction + 1 = 2 ^ 52
  · -- the next number is the first one of the next exponent
    have next : 2 ^ 52 * exponent + fraction + 1 = 2 ^ 52 * (exponent + 1) + 0 := by omega
    rw [next, units_normal (by decide)]
    cases exponent with
    | zero =>
        rw [Nat.mul_zero, Nat.zero_add, units_subnormal small]
        omega
    | succ place =>
        rw [units_normal small, Nat.pow_succ 2 place, Nat.mul_comm _ 2, ← Nat.mul_assoc]
        exact Nat.mul_lt_mul_of_pos_right (by omega) (Nat.two_pow_pos place)
  · have within : fraction + 1 < 2 ^ 52 := by omega
    cases exponent with
    | zero =>
        rw [Nat.mul_zero, Nat.zero_add, units_subnormal small, units_subnormal within]
        exact Nat.lt_succ_self fraction
    | succ place =>
        rw [Nat.add_assoc, units_normal small, units_normal within]
        exact Nat.mul_lt_mul_of_pos_right (by omega) (Nat.two_pow_pos place)

theorem units_strict_mono : StrictMono units :=
  strictMono_nat_of_lt_succ units_lt_succ

/-- The count at a place on the line, negative below zero. -/
def unitsAt (key : Int) : Int :=
  key.sign * units key.natAbs

theorem units_at_neg (key : Int) : unitsAt (-key) = -unitsAt key := by
  rw [unitsAt, unitsAt, Int.sign_neg, Int.natAbs_neg, Int.neg_mul]

theorem units_at_of_nat (body : Nat) : unitsAt (Int.ofNat body) = units body := by
  cases body with
  | zero => rfl
  | succ body => exact Int.one_mul _

theorem units_at_le_iff (low high : Int) : unitsAt low ≤ unitsAt high ↔ low ≤ high := by
  have grows : StrictMono unitsAt := by
    apply strictMono_of_odd_strictMonoOn_nonneg units_at_neg
    intro low lowNonneg high highNonneg less
    lift low to ℕ using lowNonneg
    lift high to ℕ using highNonneg
    have counted := Int.ofNat_lt.mpr (units_strict_mono (Int.ofNat_lt.mp less))
    rwa [← units_at_of_nat, ← units_at_of_nat] at counted
  exact grows.le_iff_le

/-! ## Values -/

theorem magnitude_eq (x : Binary64) :
    (x.significand : ℚ) * 2 ^ x.exponent = units x.body * 2 ^ (-1074 : Int) := by
  unfold significand exponent
  have base : Nat.pow 2 52 = 2 ^ 52 := rfl
  rw [base]
  generalize x.body = body
  by_cases subnormal : body / 2 ^ 52 = 0
  · rw [if_pos subnormal, subnormal, units, if_pos subnormal]
    rfl
  · have place : max (Int.ofNat (body / 2 ^ 52)) 1 - 1075 =
        Int.ofNat (body / 2 ^ 52 - 1) + -1074 := by
      simp only [Int.ofNat_eq_natCast]
      omega
    have two : (2 : ℚ) ≠ 0 := by decide
    rw [if_neg subnormal, units, if_neg subnormal, place, zpow_add₀ two, Int.ofNat_eq_natCast,
      zpow_natCast, Nat.cast_mul, Nat.cast_pow, Nat.cast_ofNat, mul_assoc]

theorem value_eq (x : Binary64) : x.value = unitsAt x.orderKey * 2 ^ (-1074 : Int) := by
  rw [value, mul_assoc, magnitude_eq, orderKey]
  split
  · rw [units_at_neg, units_at_of_nat, Int.cast_neg, Int.cast_natCast, neg_one_mul, neg_mul]
  · rw [units_at_of_nat, Int.cast_natCast, one_mul]

theorem value_le_iff (x y : Binary64) : x.value ≤ y.value ↔ x.orderKey ≤ y.orderKey := by
  have least : (0 : ℚ) < 2 ^ (-1074 : Int) := zpow_pos (by decide) _
  rw [value_eq, value_eq, mul_le_mul_iff_of_pos_right least, Int.cast_le, units_at_le_iff]

theorem not_nan_of_finite {x : Binary64} (finite : x.isFinite = true) : x.isNaN = false := by
  have body : x.body < infinityBody := of_decide_eq_true finite
  exact decide_eq_false (Nat.lt_asymm body)

/-- Finite numbers are compared by their values. -/
theorem le_iff_of_finite {x y : Binary64} (xFinite : x.isFinite = true)
    (yFinite : y.isFinite = true) : x.le y = true ↔ x.value ≤ y.value := by
  rw [value_le_iff, le, not_nan_of_finite xFinite, not_nan_of_finite yFinite]
  exact decide_eq_true_iff

theorem value_zero : zero.value = 0 := by
  have none : zero.significand = 0 := by decide +kernel
  rw [value, none]
  simp

theorem value_one : one.value = 1 := by
  have positive : one.isNegative = false := by decide +kernel
  have significand : one.significand = 2 ^ 52 := by decide +kernel
  have exponent : one.exponent = -52 := by decide +kernel
  rw [value, positive, significand, exponent]
  norm_num

end FunctionKit.Binary64
