/-
Decimal text of doubles.

`shortest` finds the fewest digits that read back as the same number, and of those the nearest, by
exact arithmetic on natural numbers.  `NumberStyle` records where a format changes to exponents and
how it spells them; `fixedPlaces` writes a fixed number of places.
-/
import Switchyard.Ieee.Arithmetic
import Switchyard.Text.Digits

namespace Switchyard.Double

/-! ## Shortest digits -/

/-- Decimal digits `digits` and exponent: the number is `0.d₁d₂… × 10 ^ point`. -/
structure Digits where
  digits : List Char
  point : Int
deriving DecidableEq, Repr

/-- The largest `p` with `10 ^ p ≤ n / d`, for `n / d` below one: the power is `-p`. -/
def leadingZeros (n d : Nat) : Nat → Nat
  | 0 => 0
  | fuel + 1 => if d ≤ n then 0 else leadingZeros (n * 10) d fuel + 1

/-- The decimal exponent of `n / d`. -/
def decimalExponent (n d : Nat) : Int :=
  if d ≤ n then (Nat.toDigits 10 (n / d)).length - 1 else -(leadingZeros n d 400 : Int)

/-- Whether `c * 10 ^ k`, in the scale of `n / d`, lies in the interval that rounds to the number.
The interval is given by its ends in quarters of a unit. -/
structure Interval where
  low : Nat
  high : Nat
  closed : Bool

/-- The grid points with step `10 ^ k` right below and above `n / d`, as multiples of the step,
the quotient being in quarters of a unit scaled by `unitN / unitD`. -/
def candidate (quarters unitN unitD : Nat) (i : Interval) (k : Int) : Option Nat :=
  let stepN := if 0 ≤ k then Nat.pow 10 k.toNat else 1
  let stepD := if 0 ≤ k then 1 else Nat.pow 10 (-k).toNat
  -- value = quarters * unitN / unitD; grid point c = c * stepN / stepD
  let n := quarters * unitN * stepD
  let d := unitD * stepN
  let below := n / d
  let inside (c : Nat) : Bool :=
    let v := c * d
    let lo := i.low * unitN * stepD
    let hi := i.high * unitN * stepD
    if i.closed then lo ≤ v && v ≤ hi else lo < v && v < hi
  match inside below, inside (below + 1) with
  | true, true => some (roundDiv n d)
  | true, false => some below
  | false, true => some (below + 1)
  | false, false => none

/-- Tries grids with more and more digits. -/
def searchDigits (quarters unitN unitD : Nat) (i : Interval) (top : Int) : Nat → Nat → Nat × Int
  | 0, n => (0, top - n)
  | fuel + 1, n =>
    let k := top - n + 1
    match candidate quarters unitN unitD i k with
    | some c => (c, k)
    | none => searchDigits quarters unitN unitD i top fuel (n + 1)

/-- The fewest digits that read back as a positive finite number; of those the nearest. -/
def shortest (x : Double) : Digits :=
  let (m, e) := x.significand
  let low := if m = hiddenBit ∧ 0 < e then 4 * m - 1 else 4 * m - 2
  let i : Interval := ⟨low, 4 * m + 2, m % 2 = 0⟩
  -- a quarter of a unit is 2 ^ (e - 1076)
  let unitN := if 1076 ≤ e then Nat.pow 2 (e - 1076) else 1
  let unitD := if 1076 ≤ e then 1 else Nat.pow 2 (1076 - e)
  let (c, k) := searchDigits (4 * m) unitN unitD i (decimalExponent (4 * m * unitN) unitD) 17 1
  let ds := Nat.toDigits 10 c
  let trimmed := (ds.reverse.dropWhile (· = '0')).reverse
  ⟨trimmed, k + ds.length⟩

/-! ## Formats -/

/-- Where positional writing ends and how an exponent is spelled. -/
structure NumberStyle where
  /-- Numbers are positional when their decimal exponent is at least this … -/
  least : Int
  /-- … and below this. -/
  most : Int
  /-- Sign written before an exponent that is not negative. -/
  plus : String

/-- Digits with the point after the `point`-th place, and at least one place on either side. -/
def positional (d : Digits) : List Char :=
  if d.point ≤ 0 then
    '0' :: '.' :: List.replicate (-d.point).toNat '0' ++ d.digits
  else
    let p := d.point.toNat
    if d.digits.length ≤ p then
      d.digits ++ List.replicate (p - d.digits.length) '0' ++ ['.', '0']
    else d.digits.take p ++ '.' :: d.digits.drop p

/-- One digit, the others after a point, and the exponent. -/
def scientific (f : NumberStyle) (d : Digits) : List Char :=
  let e := d.point - 1
  let exponent :=
    if e < 0 then '-' :: Nat.toDigits 10 (-e).toNat else f.plus.toList ++ Nat.toDigits 10 e.toNat
  match d.digits with
  | [] => []
  | [c] => c :: 'e' :: exponent
  | c :: cs => c :: '.' :: cs ++ 'e' :: exponent

/-- The text of a finite number in a format. -/
def write (f : NumberStyle) (x : Double) : List Char :=
  let unsigned :=
    if x.magnitude = 0 then ['0', '.', '0']
    else
      let d := x.shortest
      if f.least ≤ d.point - 1 ∧ d.point - 1 < f.most then positional d else scientific f d
  if x.negative then '-' :: unsigned else unsigned

/-- A finite number with exactly `places` digits after the point; a half goes to the even
neighbour. -/
def fixedPlaces (places : Nat) (x : Double) : List Char :=
  let (m, e) := x.significand
  let scaled := m * Nat.pow 10 places
  let n := if 1074 ≤ e then scaled * Nat.pow 2 (e - 1074) else roundDiv scaled (Nat.pow 2 (1074 - e))
  let ds := Nat.toDigits 10 n
  let padded := List.replicate (places + 1 - ds.length) '0' ++ ds
  let whole := padded.take (padded.length - places)
  let text := if places = 0 then whole else whole ++ '.' :: padded.drop (padded.length - places)
  if x.negative then '-' :: text else text

/-! ## Reading -/

/-- The double nearest to `m * 10 ^ e`, with a sign.  Powers far out of range are not computed. -/
def ofDecimal (isNegative : Bool) (m : Nat) (e : Int) : Double :=
  let size := (Nat.toDigits 10 m).length + e
  let x :=
    if m = 0 ∨ size < -330 then zero
    else if 330 < size then infinite
    else if e < 0 then nearest false (m * perOne) (Nat.pow 10 e.natAbs)
    else nearest false (m * Nat.pow 10 e.natAbs * perOne) 1
  if isNegative then x.negated else x

end Switchyard.Double
