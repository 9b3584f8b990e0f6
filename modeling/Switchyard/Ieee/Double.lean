/-
Double-precision numbers by their bits.

A `Double` is the 64 bits of an IEEE 754 number.  Classification and order are read off the bits, so
that laws about them need no law about machine arithmetic.
-/
namespace Switchyard

/-- The bits of a double-precision number. -/
structure Double where
  bits : UInt64
deriving DecidableEq, Repr

namespace Double

/-! ## Parts -/

/-- Whether the sign bit is set. -/
def negative (x : Double) : Bool := 0x8000000000000000 ≤ x.bits.toNat

/-- Exponent and fraction as one number; it grows with the absolute value. -/
def magnitude (x : Double) : Nat := x.bits.toNat % 0x8000000000000000

/-- The magnitude of infinity; every larger one is not a number. -/
def infiniteMagnitude : Nat := 0x7FF0000000000000

def isNaN (x : Double) : Bool := infiniteMagnitude < x.magnitude

/-- An infinite value, of either sign. -/
def isInfinite (x : Double) : Bool := x.magnitude == infiniteMagnitude

def isFinite (x : Double) : Bool := x.magnitude < infiniteMagnitude

/-- The value is not below zero; both zeros qualify. -/
def isNonNegative (x : Double) : Bool :=
  !x.isNaN && (!x.negative || x.magnitude == 0)

/-! ## Order -/

/-- A key for the order of values, in which both zeros are equal.  It is meaningful for numbers. -/
def valueKey (x : Double) : Int := if x.negative then -(x.magnitude : Int) else x.magnitude

/-- A key for the total order of bit patterns: negative zero lies right below zero. -/
def totalKey (x : Double) : Int := if x.negative then -(x.magnitude : Int) - 1 else x.magnitude

/-- Not after, in the total order of bit patterns. -/
def totalLe (x y : Double) : Bool := x.totalKey ≤ y.totalKey

/-- Equal as values: both zeros are equal and what is not a number equals nothing. -/
def valueEq (x y : Double) : Bool := !x.isNaN && !y.isNaN && x.valueKey == y.valueKey

theorem totalLe_total (x y : Double) : (x.totalLe y || y.totalLe x) = true := by
  simp only [totalLe, Bool.or_eq_true, decide_eq_true_eq]
  omega

theorem totalLe_trans (x y z : Double) (hxy : x.totalLe y = true) (hyz : y.totalLe z = true) :
    x.totalLe z = true := by
  simp only [totalLe, decide_eq_true_eq] at *
  omega

/-- The total order refines the order of values. -/
theorem valueKey_le_of_totalLe {x y : Double} (h : x.totalLe y = true) : x.valueKey ≤ y.valueKey := by
  simp only [totalLe, decide_eq_true_eq] at h
  unfold totalKey at h
  unfold valueKey
  by_cases hx : x.negative <;> by_cases hy : y.negative
  all_goals
    simp only [hx, hy, if_true, if_false, Bool.false_eq_true] at h ⊢
    omega

/-! ## Values -/

/-- The largest finite number. -/
def largest : Double := ⟨0x7FEFFFFFFFFFFFFF⟩

/-- Positive zero. -/
def zero : Double := ⟨0⟩

def one : Double := ⟨0x3FF0000000000000⟩

/-- Positive infinity. -/
def infinite : Double := ⟨0x7FF0000000000000⟩

/-- What is not a number. -/
def undefined : Double := ⟨0x7FF8000000000000⟩

/-- The number with the other sign. -/
def negated (x : Double) : Double := ⟨x.bits ^^^ 0x8000000000000000⟩

/-- The bits of a machine number. -/
def ofFloat (x : Float) : Double := ⟨x.toBits⟩

end Double

end Switchyard
