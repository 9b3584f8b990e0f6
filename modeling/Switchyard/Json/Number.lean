/-
What the numbers of a JSON text mean.

A number without places and exponent that fits 64 bits is an integer, every other number a double.  A
double is made from the leading digits that fit 64 bits, scaled once by a power of ten.
-/
import Switchyard.Ieee.Decimal
import Switchyard.Json.Tree

namespace Switchyard.Json

/-- The meaning of a number. -/
inductive Number where
  | natural (n : Nat)
  /-- The negative integer with this absolute value. -/
  | negative (n : Nat)
  | double (x : Double)

namespace Numeral

/-- The value of a digit. -/
def digit (c : Char) : Nat := c.toNat - 48

/-- The leading digits that fit 64 bits, and how many digits are left over. -/
def leading : List Char → Nat → Nat × Nat
  | [], acc => (acc, 0)
  | c :: cs, acc =>
    let next := acc * 10 + digit c
    if next < UInt64.size then leading cs next else (acc, cs.length + 1)

/-- The exponent as written. -/
def writtenExponent (n : Numeral) : Int :=
  match n.exponent with
  | none => 0
  | some (negative, ds) =>
    let e : Int := ds.foldl (fun acc c => acc * 10 + digit c) 0
    if negative then -e else e

/-- The significant digits as one number, and the power of ten that scales it. -/
def parts (n : Numeral) : Nat × Int :=
  match leading n.whole 0 with
  | (m, 0) =>
    let places := n.places.getD []
    let (m, left) := leading places m
    (m, n.writtenExponent - ((places.length - left : Nat) : Int))
  | (m, left) => (m, n.writtenExponent + left)

/-- A power of ten of at most 308. -/
def powerOfTen (k : Nat) : Double := Double.ofDecimal false 1 k

/-- Scales by a power of ten; nothing when the result is too large. -/
def scale : Nat → Double → Int → Option Double
  | 0, _, _ => some Double.zero
  | fuel + 1, x, e =>
    if x.magnitude = 0 then some x
    else if 308 < e then none
    else if 0 ≤ e then
      let y := x.mul (powerOfTen e.toNat)
      if y.isInfinite then none else some y
    else if -308 ≤ e then some (x.div (powerOfTen (-e).toNat))
    else scale fuel (x.div (powerOfTen 308)) (e + 308)

/-- The double that a number spells; nothing when it is too large. -/
def double? (n : Numeral) : Option Double :=
  let (m, e) := n.parts
  (scale 8 (Double.ofNat m) e).map fun x => if n.negative then x.negated else x

/-- The meaning of a number; nothing when it is too large. -/
def meaning (n : Numeral) : Option Number :=
  match n.places, n.exponent, leading n.whole 0 with
  | none, none, (m, 0) =>
    if !n.negative then some (.natural m)
    else if 0 < m ∧ m ≤ 0x8000000000000000 then some (.negative m)
    else n.double?.map .double
  | _, _, _ => n.double?.map .double

end Numeral

end Switchyard.Json
