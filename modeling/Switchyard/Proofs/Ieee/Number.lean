/-
The numbers that doubles stand for.

A finite double stands for an integer times a power of two, with a sign (`Double.number`).  The keys that
doubles are compared by agree with these numbers: `number_le_iff` for the order of values, in which both
zeros are equal, and `totalLe_iff` for the total order of bit patterns, which puts negative zero first.
-/
import Mathlib.Algebra.Order.Field.Rat
import Mathlib.Data.Nat.Cast.Order.Ring
import Mathlib.Order.Monotone.Basic
import Mathlib.Tactic.Positivity
import Switchyard.Ieee.Arithmetic

namespace Switchyard.Double

/-! ## Absolute values -/

/-- How many times the least positive number is contained in the number of some magnitude. -/
def unitsOf (m : Nat) : Nat :=
  if m / hiddenBit = 0 then m % hiddenBit else (hiddenBit + m % hiddenBit) * 2 ^ (m / hiddenBit - 1)

theorem units_eq (x : Double) : x.units = unitsOf x.magnitude := by
  simp only [units, significand, unitsOf, Nat.pow_eq]
  split <;> simp

/-- Within one exponent, a larger fraction adds a power of two. -/
theorem unitsOf_of_lt {q r : Nat} (hr : r < hiddenBit) :
    unitsOf (hiddenBit * q + r) = if q = 0 then r else (hiddenBit + r) * 2 ^ (q - 1) := by
  have hpos : 0 < hiddenBit := by decide
  have hdiv : (hiddenBit * q + r) / hiddenBit = q := by
    rw [Nat.mul_add_div hpos, Nat.div_eq_of_lt hr, Nat.add_zero]
  have hmod : (hiddenBit * q + r) % hiddenBit = r := by
    rw [Nat.mul_add_mod, Nat.mod_eq_of_lt hr]
  rw [unitsOf, hdiv, hmod]

theorem unitsOf_lt_succ (m : Nat) : unitsOf m < unitsOf (m + 1) := by
  have hpos : 0 < hiddenBit := by decide
  have hm : m = hiddenBit * (m / hiddenBit) + m % hiddenBit := (Nat.div_add_mod _ _).symm
  have hr : m % hiddenBit < hiddenBit := Nat.mod_lt _ hpos
  generalize m / hiddenBit = q at hm
  generalize m % hiddenBit = r at hm hr
  rw [hm, unitsOf_of_lt hr]
  by_cases hlast : r + 1 = hiddenBit
  · -- the next number is the first one of the next exponent
    have hnext : hiddenBit * q + r + 1 = hiddenBit * (q + 1) + 0 := by
      rw [Nat.add_assoc, hlast, Nat.mul_succ, Nat.add_zero]
    rw [hnext, unitsOf_of_lt hpos, if_neg (Nat.succ_ne_zero q), Nat.add_zero, Nat.add_sub_cancel]
    cases q with
    | zero => simpa using hr
    | succ q =>
      have hdouble : hiddenBit * 2 ^ (q + 1) = (hiddenBit + hiddenBit) * 2 ^ q := by
        rw [Nat.pow_succ, Nat.mul_comm (2 ^ q) 2, ← Nat.mul_assoc, Nat.mul_two]
      rw [if_neg (Nat.succ_ne_zero q), Nat.add_sub_cancel, hdouble]
      exact Nat.mul_lt_mul_of_pos_right (Nat.add_lt_add_left hr _) (Nat.two_pow_pos q)
  · have hnext : r + 1 < hiddenBit := Nat.lt_of_le_of_ne hr hlast
    rw [Nat.add_assoc, unitsOf_of_lt hnext]
    split
    · exact Nat.lt_succ_self r
    · exact Nat.mul_lt_mul_of_pos_right (Nat.lt_succ_self _) (Nat.two_pow_pos _)

theorem unitsOf_strictMono : StrictMono unitsOf := strictMono_nat_of_lt_succ unitsOf_lt_succ

theorem units_le_iff {x y : Double} : x.units ≤ y.units ↔ x.magnitude ≤ y.magnitude := by
  rw [units_eq, units_eq]
  exact unitsOf_strictMono.le_iff_le

theorem units_eq_zero_iff {x : Double} : x.units = 0 ↔ x.magnitude = 0 := by
  have hzero : unitsOf 0 = 0 := rfl
  rw [units_eq, ← hzero]
  exact unitsOf_strictMono.injective.eq_iff

/-! ## Numbers -/

theorem perOne_eq : perOne = 2 ^ doublings := by
  unfold perOne
  -- the power itself is never computed
  generalize doublings = n
  exact Nat.pow_eq

theorem perOne_pos : 0 < perOne := by
  rw [perOne_eq]
  exact Nat.two_pow_pos doublings

theorem cast_perOne_pos : (0 : ℚ) < perOne := by exact_mod_cast perOne_pos

/-- The number that a finite double stands for; the least positive one is 2⁻¹⁰⁷⁴. -/
def number (x : Double) : ℚ := x.signedUnits / perOne

theorem number_of_not_negative {x : Double} (h : x.negative = false) : x.number = x.units / perOne := by
  rw [number, signedUnits, h, if_neg Bool.false_ne_true, Int.cast_natCast]

theorem abs_number (x : Double) : |x.number| = x.units / perOne := by
  rw [number, abs_div, abs_of_pos cast_perOne_pos, signedUnits]
  split
  · rw [Int.cast_neg, abs_neg, Int.cast_natCast, Nat.abs_cast]
  · rw [Int.cast_natCast, Nat.abs_cast]

/-- A number is as many units as its key says, and the keys are in the order of the numbers. -/
theorem number_le_iff {x y : Double} : x.number ≤ y.number ↔ x.valueKey ≤ y.valueKey := by
  have hle := units_le_iff (x := x) (y := y)
  have hge := units_le_iff (x := y) (y := x)
  have hx := units_eq_zero_iff (x := x)
  have hy := units_eq_zero_iff (x := y)
  rw [number, number, div_le_div_iff_of_pos_right cast_perOne_pos, Int.cast_le]
  simp only [valueKey, signedUnits]
  -- what is compared are integers, so the four cases of signs are arithmetic
  split <;> split <;> omega

theorem number_lt_iff {x y : Double} : x.number < y.number ↔ x.valueKey < y.valueKey := by
  rw [← not_le, ← not_le, number_le_iff]

theorem number_eq_iff {x y : Double} : x.number = y.number ↔ x.valueKey = y.valueKey := by
  rw [le_antisymm_iff, le_antisymm_iff, number_le_iff, number_le_iff]

/-- In the total order a smaller number comes first, and of both zeros the negative one. -/
theorem totalLe_iff {x y : Double} :
    x.totalLe y = true ↔
      x.number < y.number ∨ (x.number = y.number ∧ (x.negative = true ∨ y.negative = false)) := by
  rw [number_lt_iff, number_eq_iff, totalLe, decide_eq_true_eq, totalKey, totalKey, valueKey, valueKey]
  cases x.negative <;> cases y.negative
  all_goals
    simp only [if_true, if_false, Bool.false_eq_true, reduceCtorEq, or_false, or_true, and_true, and_false]
    omega

theorem number_zero : zero.number = 0 := by
  have hunits : zero.signedUnits = 0 := rfl
  rw [number, hunits, Int.cast_zero, zero_div]

theorem number_lt_zero_iff {x : Double} :
    x.number < 0 ↔ x.negative = true ∧ x.magnitude ≠ 0 := by
  rw [← number_zero, number_lt_iff]
  have hkey : zero.valueKey = 0 := rfl
  rw [hkey, valueKey]
  cases x.negative with
  | true => simp [Nat.pos_iff_ne_zero]
  | false => simp

theorem isFinite_eq_false_iff {x : Double} :
    x.isFinite = false ↔ x.isNaN = true ∨ x.isInfinite = true := by
  simp only [isFinite, isNaN, isInfinite, decide_eq_false_iff_not, decide_eq_true_eq, beq_iff_eq]
  omega

end Switchyard.Double
