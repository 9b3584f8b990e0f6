/-
Arithmetic of doubles.

A finite double is a whole number of units, the unit being the least positive one.  So the exact result of
an operation is a quotient of natural numbers, which is rounded once: `nearest` gives the double nearest to
it, and of two the even one.
-/
import Switchyard.Ieee.Double

namespace Switchyard.Double

/-! ## Units -/

/-- The bit of a significand that is not written out. -/
def hiddenBit : Nat := 0x10000000000000

/-- Integer `m` and exponent `e` with magnitude value `m * 2 ^ (e - 1074)`. -/
def significand (x : Double) : Nat × Nat :=
  let fraction := x.magnitude % hiddenBit
  let exponent := x.magnitude / hiddenBit
  if exponent = 0 then (fraction, 0) else (hiddenBit + fraction, exponent - 1)

/-- The absolute value of a finite double, in units of the least positive number. -/
def units (x : Double) : Nat := x.significand.1 * Nat.pow 2 x.significand.2

/-- The value of a finite double, in the same units. -/
def signedUnits (x : Double) : Int := if x.negative then -(x.units : Int) else x.units

/-- How often the unit is doubled to make one. -/
def doublings : Nat := 1074

/-- How many units make one. -/
def perOne : Nat := Nat.pow 2 doublings

/-! ## Rounding -/

/-- The quotient nearest to `n / d`; a half goes to the even neighbour. -/
def roundDiv (n d : Nat) : Nat :=
  let q := n / d
  let r := n % d
  if 2 * r < d then q else if d < 2 * r then q + 1 else q + q % 2

/-- How often the unit is doubled so that a significand counts up to `n / d` in it. -/
def exponentOf (n d : Nat) : Nat := Nat.log2 (n / d) - 52

/-- The magnitude nearest to `n / d` units; too large a quotient is infinite.  A significand that is rounded
up to the next power of two carries into the exponent. -/
def nearestMagnitude (n d : Nat) : Nat :=
  let e := exponentOf n d
  min (e * hiddenBit + roundDiv n (d * Nat.pow 2 e)) infiniteMagnitude

/-- The double with a sign and a magnitude. -/
def ofMagnitude (isNegative : Bool) (m : Nat) : Double :=
  ⟨.ofNat (if isNegative then 0x8000000000000000 + m else m)⟩

/-- The double nearest to `n / d` units, with a sign. -/
def nearest (isNegative : Bool) (n d : Nat) : Double := ofMagnitude isNegative (nearestMagnitude n d)

/-! ## Operations -/

/-- The double nearest to a natural number. -/
def ofNat (n : Nat) : Double := nearest false (n * perOne) 1

/-- The sum.  Zeros of either sign make a positive zero. -/
def add (x y : Double) : Double :=
  if x.isNaN || y.isNaN then undefined
  else if x.isInfinite then
    if y.isInfinite && x.negative != y.negative then undefined else x
  else if y.isInfinite then y
  else
    let sum := x.signedUnits + y.signedUnits
    nearest (sum < 0 || (sum == 0 && x.negative && y.negative)) sum.natAbs 1

/-- The product. -/
def mul (x y : Double) : Double :=
  let isNegative := x.negative != y.negative
  if x.isNaN || y.isNaN then undefined
  else if x.isInfinite || y.isInfinite then
    if x.magnitude == 0 || y.magnitude == 0 then undefined
    else ofMagnitude isNegative infiniteMagnitude
  else nearest isNegative (x.units * y.units) perOne

/-- The quotient. -/
def div (x y : Double) : Double :=
  let isNegative := x.negative != y.negative
  if x.isNaN || y.isNaN then undefined
  else if x.isInfinite then
    if y.isInfinite then undefined else ofMagnitude isNegative infiniteMagnitude
  else if y.isInfinite then ofMagnitude isNegative 0
  else if y.magnitude == 0 then
    if x.magnitude == 0 then undefined else ofMagnitude isNegative infiniteMagnitude
  else nearest isNegative (x.units * perOne) y.units

/-- The sum from left to right. -/
def sum (xs : List Double) : Double := xs.foldl add zero

/-- The sum, divided by the number of terms. -/
def mean (xs : List Double) : Double := (sum xs).div (ofNat xs.length)

end Switchyard.Double
