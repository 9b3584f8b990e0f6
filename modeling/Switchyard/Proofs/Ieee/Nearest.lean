/-
Rounding to doubles.

An operation on doubles gives a double that is nearest to the exact result, unless that is out of range
(`Rounds`).  An exact result between two doubles is not rounded beyond them (`Rounds.between`), and powers of
two are doubles (`Rounds.le_two_pow`).
-/
import Mathlib.Tactic.Linarith
import Switchyard.Proofs.Ieee.Number

namespace Switchyard.Double

/-! ## Powers of two -/

/-- The double that stands for `2 ^ n`. -/
def twoPow (n : Nat) : Double := ⟨.ofNat ((1023 + n) * hiddenBit)⟩

section TwoPow

variable {n : Nat} (hn : n < 1024)
include hn

theorem toNat_twoPow : (twoPow n).bits.toNat = (1023 + n) * hiddenBit := by
  refine UInt64.toNat_ofNat_of_lt' ?_
  rw [hiddenBit, UInt64.size]
  omega

theorem magnitude_twoPow : (twoPow n).magnitude = (1023 + n) * hiddenBit := by
  rw [magnitude, toNat_twoPow hn]
  refine Nat.mod_eq_of_lt ?_
  rw [hiddenBit]
  omega

theorem negative_twoPow : (twoPow n).negative = false := by
  rw [negative, toNat_twoPow hn, decide_eq_false_iff_not, hiddenBit]
  omega

theorem isFinite_twoPow : (twoPow n).isFinite = true := by
  rw [isFinite, magnitude_twoPow hn, decide_eq_true_eq, hiddenBit, infiniteMagnitude]
  omega

theorem number_twoPow : (twoPow n).number = 2 ^ n := by
  have hunits : (twoPow n).units = hiddenBit * 2 ^ (1022 + n) := by
    have hsplit : (1023 + n) * hiddenBit = hiddenBit * (1023 + n) + 0 := by rw [Nat.mul_comm]; rfl
    have hexponent : 1023 + n - 1 = 1022 + n := by omega
    rw [units_eq, magnitude_twoPow hn, hsplit, unitsOf_of_lt (by decide), if_neg (by omega), hexponent,
      Nat.add_zero]
  have hpow : hiddenBit * 2 ^ (1022 + n) = 2 ^ n * perOne := by
    have hhidden : hiddenBit = 2 ^ 52 := rfl
    have hexponent : 52 + (1022 + n) = n + doublings := by
      rw [doublings]
      omega
    rw [hhidden, perOne_eq, ← Nat.pow_add, hexponent, Nat.pow_add]
  rw [number_of_not_negative (negative_twoPow hn), hunits, hpow, Nat.cast_mul, Nat.cast_pow,
    mul_div_cancel_right₀ _ cast_perOne_pos.ne', Nat.cast_ofNat]

end TwoPow

/-! ## Numbers that are not below zero -/

section NotBelowZero

variable {x : Double} (hzero : 0 ≤ x.number)
include hzero

/-- The sign is that of negative zero. -/
theorem magnitude_eq_zero_of_negative (hnegative : x.negative = true) : x.magnitude = 0 := by
  by_contra hmagnitude
  exact absurd (number_lt_zero_iff.2 ⟨hnegative, hmagnitude⟩) (not_lt.2 hzero)

theorem isNonNegative_of_number (hfinite : x.isFinite = true) : x.isNonNegative = true := by
  have hnumber : x.isNaN = false := by
    rw [isFinite, decide_eq_true_eq] at hfinite
    rw [isNaN, decide_eq_false_iff_not]
    omega
  rw [isNonNegative, hnumber]
  cases hnegative : x.negative with
  | false => rfl
  | true =>
    rw [magnitude_eq_zero_of_negative hzero hnegative]
    rfl

theorem units_le_of_number_le {n : Nat} (hx : x.number ≤ n) : x.units ≤ n * perOne := by
  cases hnegative : x.negative with
  | true =>
    rw [units_eq_zero_iff.2 (magnitude_eq_zero_of_negative hzero hnegative)]
    exact Nat.zero_le _
  | false =>
    rw [number_of_not_negative hnegative, div_le_iff₀ cast_perOne_pos] at hx
    exact_mod_cast hx

end NotBelowZero

/-! ## Rounded quotients -/

/-- The neighbour that is not farther is taken. -/
theorem roundDiv_cases (n d : Nat) :
    (roundDiv n d = n / d ∧ 2 * (n % d) ≤ d) ∨ (roundDiv n d = n / d + 1 ∧ d ≤ 2 * (n % d)) := by
  rw [roundDiv]
  split
  · exact Or.inl ⟨rfl, by omega⟩
  · split
    · exact Or.inr ⟨rfl, by omega⟩
    · -- a half, so either neighbour will do
      rcases Nat.mod_two_eq_zero_or_one (n / d) with heven | hodd
      · exact Or.inl ⟨by omega, by omega⟩
      · exact Or.inr ⟨by omega, by omega⟩

/-- A quotient that is at most a natural number is not rounded beyond it. -/
theorem roundDiv_le {n d q : Nat} (hd : 0 < d) (h : n ≤ q * d) : roundDiv n d ≤ q := by
  have hquotient : n / d ≤ q := Nat.div_le_of_le_mul (Nat.mul_comm q d ▸ h)
  rcases roundDiv_cases n d with ⟨hdown, -⟩ | ⟨hup, hrest⟩
  · rw [hdown]
    exact hquotient
  · -- something remains, so the quotient is not exact
    have hsplit : d * (n / d) + n % d = n := Nat.div_add_mod n d
    have hless : n / d ≠ q := by
      intro hexact
      rw [hexact, Nat.mul_comm] at hsplit
      omega
    omega

/-! ## Nearest doubles -/

/-- What an operation may give for an exact result: a finite double that is no farther from it than any
other.  Nothing is said of exact results out of range. -/
def Rounds (q : ℚ) (x : Double) : Prop :=
  |q| ≤ largest.number → x.isFinite = true ∧
    ∀ y : Double, y.isFinite = true → |x.number - q| ≤ |y.number - q|

/-- The finite doubles are those that are not above the largest one. -/
theorem isFinite_iff {x : Double} : x.isFinite = true ↔ |x.number| ≤ largest.number := by
  have hpositive : largest.negative = false := rfl
  have hmagnitude : largest.magnitude + 1 = infiniteMagnitude := rfl
  rw [abs_number, number_of_not_negative hpositive, div_le_div_iff_of_pos_right cast_perOne_pos,
    Nat.cast_le, units_le_iff, isFinite, decide_eq_true_eq]
  omega

/-- Rounding does not carry an exact result beyond a double. -/
theorem Rounds.between {q : ℚ} {x low high : Double} (h : Rounds q x) (hlow : low.isFinite = true)
    (hhigh : high.isFinite = true) (hle : low.number ≤ q) (hge : q ≤ high.number) :
    x.isFinite = true ∧ low.number ≤ x.number ∧ x.number ≤ high.number := by
  have hrange : |q| ≤ largest.number := by
    rw [abs_le]
    exact ⟨(abs_le.1 (isFinite_iff.1 hlow)).1.trans hle, hge.trans (abs_le.1 (isFinite_iff.1 hhigh)).2⟩
  obtain ⟨hfinite, hnearest⟩ := h hrange
  refine ⟨hfinite, ?_, ?_⟩
  · -- otherwise the lower one would be nearer
    have hnear := hnearest low hlow
    by_contra hbelow
    rw [abs_of_neg (by linarith), abs_of_nonpos (by linarith)] at hnear
    linarith
  · -- otherwise the upper one would be nearer
    have hnear := hnearest high hhigh
    by_contra hbeyond
    rw [abs_of_pos (by linarith), abs_of_nonneg (by linarith)] at hnear
    linarith

/-- Rounding does not carry an exact result beyond a power of two, nor below zero. -/
theorem Rounds.le_two_pow {q : ℚ} {x : Double} {n : Nat} (h : Rounds q x) (hn : n < 1024) (hzero : 0 ≤ q)
    (hq : q ≤ 2 ^ n) : x.isFinite = true ∧ 0 ≤ x.number ∧ x.number ≤ 2 ^ n := by
  rw [← number_twoPow hn] at hq ⊢
  rw [← number_zero] at hzero ⊢
  exact h.between rfl (isFinite_twoPow hn) hzero hq

end Switchyard.Double
