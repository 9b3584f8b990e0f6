/-
What arithmetic on doubles gives.

`nearest` gives a double that is nearest to a quotient of units among all finite ones (`rounds_nearest`), so
each operation gives its exact result, rounded once (`rounds_add`, `rounds_mul`, `rounds_div`,
`rounds_ofNat`).  A mean is therefore a sum from left to right that is rounded at each step, divided by the
number of terms (`IsMean`).
-/
import Mathlib.Data.List.Induction
import Mathlib.Tactic.FieldSimp
import Mathlib.Tactic.Ring
import Switchyard.Proofs.Ieee.Nearest

namespace Switchyard.Double

/-! ## Significands -/

section Significand

variable {n d : Nat} (hd : 0 < d)

/-- The quotient in the doubled unit has the digits of a significand, unless the unit is the least. -/
theorem quotient_bounds :
    n / (d * 2 ^ exponentOf n d) < 2 * hiddenBit ∧
      (exponentOf n d = 0 ∨ hiddenBit ≤ n / (d * 2 ^ exponentOf n d)) := by
  have hhidden : hiddenBit = 2 ^ 52 := rfl
  have hless : n / d < 2 ^ (Nat.log2 (n / d) + 1) := Nat.lt_log2_self
  rw [← Nat.div_div_eq_div_mul, exponentOf, hhidden]
  by_cases hsmall : Nat.log2 (n / d) ≤ 52
  · have hexponent : Nat.log2 (n / d) - 52 = 0 := by omega
    have hpow : 2 ^ (Nat.log2 (n / d) + 1) ≤ 2 ^ 53 := Nat.pow_le_pow_right (by decide) (by omega)
    rw [hexponent, Nat.pow_zero, Nat.div_one]
    exact ⟨by omega, Or.inl rfl⟩
  · have hsplit : Nat.log2 (n / d) = 52 + (Nat.log2 (n / d) - 52) := by omega
    generalize Nat.log2 (n / d) - 52 = e at hsplit
    have hne : n / d ≠ 0 := by
      intro hzero
      rw [hzero] at hsplit
      have hlog : Nat.log2 0 = 0 := by decide
      omega
    have hmost : 2 ^ (52 + e) ≤ n / d := hsplit ▸ Nat.log2_self_le hne
    rw [hsplit] at hless
    refine ⟨?_, Or.inr ?_⟩
    · rw [Nat.div_lt_iff_lt_mul (Nat.two_pow_pos e)]
      calc n / d < 2 ^ (52 + e + 1) := hless
        _ = 2 * 2 ^ 52 * 2 ^ e := by ring
    · rw [Nat.le_div_iff_mul_le (Nat.two_pow_pos e), ← Nat.pow_add]
      exact hmost

/-- A significand in a doubled unit, up to the one that carries into the next exponent. -/
theorem unitsOf_scaled {e m : Nat} (hm : m ≤ 2 * hiddenBit) (he : e = 0 ∨ hiddenBit ≤ m) :
    unitsOf (e * hiddenBit + m) = m * 2 ^ e := by
  have hpos : 0 < hiddenBit := by decide
  by_cases hsmall : m < hiddenBit
  · obtain rfl : e = 0 := he.resolve_right (Nat.not_le.2 hsmall)
    have hmagnitude : 0 * hiddenBit + m = hiddenBit * 0 + m := by ring
    rw [hmagnitude, unitsOf_of_lt hsmall, if_pos rfl, Nat.pow_zero, Nat.mul_one]
  · obtain ⟨r, rfl⟩ := Nat.exists_eq_add_of_le (Nat.not_lt.1 hsmall)
    by_cases hlast : r < hiddenBit
    · have hmagnitude : e * hiddenBit + (hiddenBit + r) = hiddenBit * (e + 1) + r := by ring
      rw [hmagnitude, unitsOf_of_lt hlast, if_neg (Nat.succ_ne_zero e), Nat.add_sub_cancel]
    · -- the first number of the next exponent
      obtain rfl : r = hiddenBit := by omega
      have hmagnitude : e * hiddenBit + (hiddenBit + hiddenBit) = hiddenBit * (e + 2) + 0 := by ring
      have hexponent : e + 2 - 1 = e + 1 := by omega
      rw [hmagnitude, unitsOf_of_lt hpos, if_neg (by omega), hexponent]
      ring

include hd

/-- The magnitudes next to a quotient: one that is not above it, and one that is. -/
theorem exists_neighbours :
    ∃ below r, unitsOf below * d + r = n ∧ r < d * 2 ^ exponentOf n d ∧
      unitsOf (below + 1) * d = unitsOf below * d + d * 2 ^ exponentOf n d ∧
      ((nearestMagnitude n d = min below infiniteMagnitude ∧ 2 * r ≤ d * 2 ^ exponentOf n d) ∨
        (nearestMagnitude n d = min (below + 1) infiniteMagnitude ∧ d * 2 ^ exponentOf n d ≤ 2 * r)) := by
  obtain ⟨hmost, hleast⟩ := quotient_bounds (n := n) (d := d)
  have hround := roundDiv_cases n (d * 2 ^ exponentOf n d)
  have hsplit := Nat.div_add_mod n (d * 2 ^ exponentOf n d)
  have hrest : n % (d * 2 ^ exponentOf n d) < d * 2 ^ exponentOf n d :=
    Nat.mod_lt _ (Nat.mul_pos hd (Nat.two_pow_pos _))
  rw [nearestMagnitude, Nat.pow_eq]
  generalize exponentOf n d = e at hmost hleast hround hsplit hrest ⊢
  generalize n / (d * 2 ^ e) = q at hmost hleast hround hsplit
  generalize n % (d * 2 ^ e) = r at hround hsplit hrest
  have hbelow : unitsOf (e * hiddenBit + q) = q * 2 ^ e := unitsOf_scaled hmost.le hleast
  have habove : unitsOf (e * hiddenBit + q + 1) = (q + 1) * 2 ^ e := by
    rw [Nat.add_assoc]
    exact unitsOf_scaled (by omega) (by omega)
  refine ⟨e * hiddenBit + q, r, ?_, hrest, ?_, ?_⟩
  · rw [hbelow, ← hsplit]
    ring
  · rw [hbelow, habove]
    ring
  · rcases hround with ⟨hdown, hnear⟩ | ⟨hup, hnear⟩
    · exact Or.inl ⟨by rw [hdown], hnear⟩
    · exact Or.inr ⟨by rw [hup, Nat.add_assoc], hnear⟩

/-- In range, the rounded magnitude is finite, and no other one is nearer. -/
theorem nearestMagnitude_spec (hrange : n ≤ unitsOf (infiniteMagnitude - 1) * d) :
    nearestMagnitude n d < infiniteMagnitude ∧ ∀ m,
      ((unitsOf (nearestMagnitude n d) * d : Nat) - n : Int).natAbs ≤
        ((unitsOf m * d : Nat) - n : Int).natAbs := by
  obtain ⟨below, r, hsplit, hrest, hnext, hrounded⟩ := exists_neighbours (n := n) hd
  have hinfinite : infiniteMagnitude - 1 < infiniteMagnitude := by decide
  -- what is not above the quotient is in range, and so is what is taken
  have hbelow : below ≤ infiniteMagnitude - 1 := by
    rw [← unitsOf_strictMono.le_iff_le]
    exact Nat.le_of_mul_le_mul_right (by omega) hd
  have hfar : ∀ m, unitsOf m * d ≤ unitsOf below * d ∨ unitsOf (below + 1) * d ≤ unitsOf m * d := by
    intro m
    rcases Nat.lt_or_ge below m with hlarge | hsmall
    · exact Or.inr (Nat.mul_le_mul_right d (unitsOf_strictMono.monotone hlarge))
    · exact Or.inl (Nat.mul_le_mul_right d (unitsOf_strictMono.monotone hsmall))
  rcases hrounded with ⟨hdown, hnear⟩ | ⟨hup, hnear⟩
  · rw [Nat.min_eq_left (by omega)] at hdown
    rw [hdown]
    refine ⟨by omega, fun m => ?_⟩
    have hm := hfar m
    omega
  · have hlast : below ≠ infiniteMagnitude - 1 := by
      rintro rfl
      omega
    rw [Nat.min_eq_left (by omega)] at hup
    rw [hup]
    refine ⟨by omega, fun m => ?_⟩
    have hm := hfar m
    omega

end Significand

/-! ## Signs -/

section OfMagnitude

variable {isNegative : Bool} {m : Nat} (hm : m ≤ infiniteMagnitude)
include hm

theorem toNat_ofMagnitude :
    (ofMagnitude isNegative m).bits.toNat = if isNegative then 0x8000000000000000 + m else m := by
  have hless : infiniteMagnitude < 0x8000000000000000 := by decide
  refine UInt64.toNat_ofNat_of_lt' ?_
  rw [UInt64.size]
  split <;> omega

theorem negative_ofMagnitude : (ofMagnitude isNegative m).negative = isNegative := by
  have hless : infiniteMagnitude < 0x8000000000000000 := by decide
  rw [negative, toNat_ofMagnitude hm]
  cases isNegative with
  | true => simp
  | false =>
    rw [if_neg Bool.false_ne_true, decide_eq_false_iff_not]
    omega

theorem magnitude_ofMagnitude : (ofMagnitude isNegative m).magnitude = m := by
  have hless : infiniteMagnitude < 0x8000000000000000 := by decide
  rw [magnitude, toNat_ofMagnitude hm]
  split <;> omega

end OfMagnitude

/-! ## Nearest doubles -/

/-- A sign as a factor. -/
def signOf (isNegative : Bool) : ℚ := if isNegative then -1 else 1

theorem signOf_eq (isNegative : Bool) : signOf isNegative = 1 ∨ signOf isNegative = -1 := by
  cases isNegative with
  | true => exact Or.inr rfl
  | false => exact Or.inl rfl

theorem signOf_mul_self (isNegative : Bool) : signOf isNegative * signOf isNegative = 1 := by
  cases isNegative <;> norm_num [signOf]

theorem abs_signOf (isNegative : Bool) : |signOf isNegative| = 1 := by
  cases isNegative <;> norm_num [signOf]

theorem signedUnits_eq (x : Double) : (x.signedUnits : ℚ) = signOf x.negative * x.units := by
  rw [signedUnits, signOf]
  split <;> push_cast <;> ring

section Nearest

variable {n d : Nat} (hd : 0 < d)
include hd

/-- No magnitude is nearer to the quotient than the rounded one. -/
theorem abs_nearestMagnitude_le (hrange : n ≤ unitsOf (infiniteMagnitude - 1) * d) (m : Nat) :
    |(unitsOf (nearestMagnitude n d) : ℚ) - n / d| ≤ |(unitsOf m : ℚ) - n / d| := by
  have hpos : (0 : ℚ) < d := by exact_mod_cast hd
  have hdist : ∀ k, |(unitsOf k : ℚ) - n / d| = ((unitsOf k * d : Nat) - n : Int).natAbs / d := by
    intro k
    have hsub : (unitsOf k : ℚ) - n / d = ((unitsOf k * d : Nat) - n : Int) / d := by
      push_cast
      field_simp
    rw [hsub, abs_div, abs_of_pos hpos, Nat.cast_natAbs, Int.cast_abs]
  rw [hdist, hdist, div_le_div_iff_of_pos_right hpos]
  exact_mod_cast (nearestMagnitude_spec hd hrange).2 m

/-- **The exact result is rounded to a nearest double.** -/
theorem rounds_nearest (isNegative : Bool) :
    Rounds (signOf isNegative * (n / d) / perOne) (nearest isNegative n d) := by
  have hpos : (0 : ℚ) < d := by exact_mod_cast hd
  have hquotient : (0 : ℚ) ≤ n / d := by positivity
  intro hin
  -- in units, the exact result is no more than the largest double
  have hlargest : largest.number = unitsOf (infiniteMagnitude - 1) / perOne := by
    have hpositive : largest.negative = false := rfl
    have hmagnitude : largest.magnitude = infiniteMagnitude - 1 := rfl
    rw [number_of_not_negative hpositive, units_eq, hmagnitude]
  rw [abs_div, abs_mul, abs_signOf, one_mul, abs_of_nonneg hquotient, abs_of_pos cast_perOne_pos, hlargest,
    div_le_div_iff_of_pos_right cast_perOne_pos, div_le_iff₀ hpos] at hin
  have hrange : n ≤ unitsOf (infiniteMagnitude - 1) * d := by exact_mod_cast hin
  have hfinite := (nearestMagnitude_spec hd hrange).1
  have hnumber : (nearest isNegative n d).number =
      signOf isNegative * unitsOf (nearestMagnitude n d) / perOne := by
    rw [number, signedUnits_eq, units_eq, nearest, negative_ofMagnitude hfinite.le,
      magnitude_ofMagnitude hfinite.le]
  refine ⟨?_, fun y _ => ?_⟩
  · rw [isFinite, nearest, magnitude_ofMagnitude hfinite.le]
    exact decide_eq_true hfinite
  · -- both distances without the sign of the exact result
    have hdist : ∀ z : ℚ, |z / perOne - signOf isNegative * (n / d) / perOne| =
        |signOf isNegative * z - n / d| / perOne := by
      intro z
      have hsplit : z / perOne - signOf isNegative * (n / d) / perOne =
          signOf isNegative * (signOf isNegative * z - n / d) / perOne := by
        rw [mul_sub, ← mul_assoc, signOf_mul_self]
        ring
      rw [hsplit, abs_div, abs_mul, abs_signOf, one_mul, abs_of_pos cast_perOne_pos]
    have hother : y.number = y.signedUnits / perOne := rfl
    rw [hnumber, hother, hdist, hdist, div_le_div_iff_of_pos_right cast_perOne_pos, ← mul_assoc,
      signOf_mul_self, one_mul, signedUnits_eq, units_eq, ← mul_assoc]
    by_cases hsame : y.negative = isNegative
    · rw [hsame, signOf_mul_self, one_mul]
      exact abs_nearestMagnitude_le hd hrange _
    · -- on the other side of zero, zero is nearer
      have hzero := abs_nearestMagnitude_le hd hrange 0
      have hopposite : signOf isNegative * signOf y.negative = -1 := by
        revert hsame
        cases isNegative <;> cases y.negative <;> simp [signOf]
      have hnone : unitsOf 0 = 0 := rfl
      rw [hnone, Nat.cast_zero, zero_sub, abs_neg, abs_of_nonneg hquotient] at hzero
      have hunits : (0 : ℚ) ≤ unitsOf y.magnitude := Nat.cast_nonneg _
      refine hzero.trans ?_
      rw [hopposite, abs_of_nonpos (by linarith)]
      linarith

end Nearest

/-! ## Operations -/

variable {x y : Double}

/-- A finite double is a number, and not an infinite one. -/
theorem of_isFinite (h : x.isFinite = true) : x.isNaN = false ∧ x.isInfinite = false := by
  rw [isFinite, decide_eq_true_eq] at h
  refine ⟨?_, ?_⟩
  · rw [isNaN, decide_eq_false_iff_not]
    omega
  · rw [isInfinite, beq_eq_false_iff_ne]
    omega

theorem rounds_ofNat (n : Nat) : Rounds n (ofNat n) := by
  have hexact := rounds_nearest (n := n * perOne) Nat.one_pos false
  have hvalue : signOf false * ((n * perOne : Nat) / (1 : Nat)) / perOne = (n : ℚ) := by
    have hpos := cast_perOne_pos
    rw [signOf, if_neg Bool.false_ne_true]
    push_cast
    field_simp
  rw [hvalue] at hexact
  exact hexact

/-- Whatever sign a zero is given, it is zero. -/
theorem signOf_mul_natAbs {k : Int} {isNegative : Bool} (hbelow : k < 0 → isNegative = true)
    (habove : 0 < k → isNegative = false) : signOf isNegative * k.natAbs = k := by
  rw [Nat.cast_natAbs, Int.cast_abs]
  rcases lt_trichotomy k 0 with hneg | rfl | hpos
  · have hcast : (k : ℚ) < 0 := by exact_mod_cast hneg
    rw [hbelow hneg, abs_of_neg hcast, signOf, if_pos rfl]
    ring
  · simp
  · have hcast : (0 : ℚ) < k := by exact_mod_cast hpos
    rw [habove hpos, abs_of_pos hcast, signOf, if_neg Bool.false_ne_true, one_mul]

theorem rounds_add (hx : x.isFinite = true) (hy : y.isFinite = true) :
    Rounds (x.number + y.number) (x.add y) := by
  obtain ⟨hxNumber, hxBounded⟩ := of_isFinite hx
  obtain ⟨hyNumber, hyBounded⟩ := of_isFinite hy
  simp only [add, hxNumber, hyNumber, hxBounded, hyBounded, Bool.or_self, Bool.false_eq_true, if_false]
  rw [number, number, ← add_div, ← Int.cast_add]
  generalize x.signedUnits + y.signedUnits = k
  have hvalue : signOf (k < 0 || k == 0 && x.negative && y.negative) * (k.natAbs / (1 : Nat)) = (k : ℚ) := by
    rw [Nat.cast_one, div_one]
    refine signOf_mul_natAbs (fun hneg => ?_) (fun hpos => ?_)
    · simp [hneg]
    · have hnot : ¬ k < 0 := by omega
      have hne : k ≠ 0 := by omega
      simp [hnot, hne]
  rw [← hvalue]
  exact rounds_nearest Nat.one_pos _

/-- A product or a quotient is negative if just one of both is. -/
theorem signOf_bne (a b : Bool) : signOf (a != b) = signOf a * signOf b := by
  cases a <;> cases b <;> norm_num [signOf]

theorem rounds_mul (hx : x.isFinite = true) (hy : y.isFinite = true) :
    Rounds (x.number * y.number) (x.mul y) := by
  obtain ⟨hxNumber, hxBounded⟩ := of_isFinite hx
  obtain ⟨hyNumber, hyBounded⟩ := of_isFinite hy
  have hexact := rounds_nearest (n := x.units * y.units) (d := perOne) perOne_pos
    (x.negative != y.negative)
  have hvalue : signOf (x.negative != y.negative) * ((x.units * y.units : Nat) / perOne) / perOne =
      x.number * y.number := by
    rw [number, number, signedUnits_eq, signedUnits_eq, signOf_bne]
    push_cast
    ring
  rw [hvalue] at hexact
  simp only [mul, hxNumber, hyNumber, hxBounded, hyBounded, Bool.or_self, Bool.false_eq_true, if_false]
  exact hexact

theorem rounds_div (hx : x.isFinite = true) (hy : y.isFinite = true) (hzero : y.number ≠ 0) :
    Rounds (x.number / y.number) (x.div y) := by
  obtain ⟨hxNumber, hxBounded⟩ := of_isFinite hx
  obtain ⟨hyNumber, hyBounded⟩ := of_isFinite hy
  have hunits : y.units ≠ 0 := by
    intro hnone
    rw [number, signedUnits_eq, hnone, Nat.cast_zero, mul_zero, zero_div] at hzero
    exact hzero rfl
  have hmagnitude : (y.magnitude == 0) = false :=
    beq_eq_false_iff_ne.2 fun hnone => hunits (units_eq_zero_iff.2 hnone)
  have hexact := rounds_nearest (n := x.units * perOne) (Nat.pos_of_ne_zero hunits)
    (x.negative != y.negative)
  have hvalue : signOf (x.negative != y.negative) * ((x.units * perOne : Nat) / y.units) / perOne =
      x.number / y.number := by
    have hpos := cast_perOne_pos
    have hcast : (y.units : ℚ) ≠ 0 := by exact_mod_cast hunits
    rw [number, number, signedUnits_eq, signedUnits_eq, signOf_bne, Nat.cast_mul]
    -- the sign of the divisor is its own inverse
    rcases signOf_eq y.negative with hsign | hsign <;> rw [hsign] <;> field_simp
  rw [hvalue] at hexact
  simp only [div, hxNumber, hyNumber, hxBounded, hyBounded, hmagnitude, Bool.or_self, Bool.false_eq_true,
    if_false]
  exact hexact

/-! ## Natural numbers -/

theorem number_of_units {n : Nat} (hsign : x.negative = false) (hunits : x.units = n * perOne) :
    x.number = n := by
  rw [number_of_not_negative hsign, hunits, Nat.cast_mul, mul_div_cancel_right₀ _ cast_perOne_pos.ne']

theorem number_ofNat_ne_zero {n : Nat} (hn : 0 < n) : (ofNat n).number ≠ 0 := by
  have hmost : nearestMagnitude (n * perOne) 1 ≤ infiniteMagnitude := Nat.min_le_right _ _
  have hunits : (ofNat n).units ≠ 0 := by
    rw [Ne, units_eq_zero_iff, ofNat, nearest, magnitude_ofMagnitude hmost, nearestMagnitude]
    -- even one has more units than a significand counts
    have hlog : doublings ≤ Nat.log2 (n * perOne / 1) := by
      have hmore : perOne ≤ n * perOne := Nat.le_mul_of_pos_left _ hn
      rw [Nat.div_one, Nat.le_log2 (Nat.mul_pos hn perOne_pos).ne']
      rwa [perOne_eq] at hmore ⊢
    have hexponent : 1 ≤ exponentOf (n * perOne) 1 := by
      rw [doublings] at hlog
      rw [exponentOf]
      omega
    have hcarry := Nat.mul_le_mul_right hiddenBit hexponent
    have hpos : 0 < hiddenBit := by decide
    have hinfinite : 0 < infiniteMagnitude := by decide
    omega
  rw [number, signedUnits_eq]
  have hcast : ((ofNat n).units : ℚ) ≠ 0 := by exact_mod_cast hunits
  have hsign : signOf (ofNat n).negative ≠ 0 := by
    rcases signOf_eq (ofNat n).negative with h | h <;> rw [h] <;> norm_num
  exact div_ne_zero (mul_ne_zero hsign hcast) cast_perOne_pos.ne'

/-! ## Means -/

/-- What doubles sum up to from left to right, each sum of finite ones being rounded. -/
inductive SumsTo : List Double → Double → Prop where
  | nil : SumsTo [] zero
  | snoc {xs : List Double} {s x t : Double} (h : SumsTo xs s)
      (ht : s.isFinite = true → x.isFinite = true → Rounds (s.number + x.number) t) :
      SumsTo (xs ++ [x]) t

/-- What doubles sum up to, divided by how many they are, and rounded. -/
def IsMean (xs : List Double) (v : Double) : Prop :=
  ∃ s n, SumsTo xs s ∧ Rounds xs.length n ∧
    (s.isFinite = true → n.isFinite = true → Rounds (s.number / n.number) v)

theorem sumsTo_sum (xs : List Double) : SumsTo xs (sum xs) := by
  induction xs using List.reverseRecOn with
  | nil => exact SumsTo.nil
  | append_singleton xs x ih =>
    have hsum : sum (xs ++ [x]) = (sum xs).add x := by
      rw [sum, List.foldl_append]
      rfl
    rw [hsum]
    exact SumsTo.snoc ih rounds_add

/-- **The mean is one.** -/
theorem isMean_mean {xs : List Double} (hne : xs ≠ []) : IsMean xs (mean xs) := by
  have hcount := number_ofNat_ne_zero (List.length_pos_of_ne_nil hne)
  exact ⟨sum xs, ofNat xs.length, sumsTo_sum xs, rounds_ofNat _, fun hs hn => rounds_div hs hn hcount⟩

end Switchyard.Double
