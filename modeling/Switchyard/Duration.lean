/-
Spans of time, in nanoseconds.

A span holds at most 2⁶⁴ seconds less a nanosecond; multiplication by a natural number stops there.
Multiplication by a double goes through the seconds of the span, which are rounded on the way.
-/
import Switchyard.Ieee.Arithmetic
import Switchyard.Text.Digits

namespace Switchyard

/-- A span of time. -/
structure Duration where
  nanos : Nat
deriving DecidableEq, Repr

namespace Duration

/-! ## Making spans -/

def zero : Duration := ⟨0⟩

def ofSeconds (n : Nat) : Duration := ⟨n * 1000000000⟩

def ofMillis (n : Nat) : Duration := ⟨n * 1000000⟩

/-- The longest span. -/
def longest : Duration := ⟨UInt64.size * 1000000000 - 1⟩

/-- The whole milliseconds of a span. -/
def millis (d : Duration) : Nat := d.nanos / 1000000

/-- The whole seconds of a span. -/
def seconds (d : Duration) : Nat := d.nanos / 1000000000

def isZero (d : Duration) : Bool := d.nanos == 0

/-- A multiple of a span, or the longest one where that is too long. -/
def times (d : Duration) (n : Nat) : Duration := ⟨min (d.nanos * n) longest.nanos⟩

/-- The shorter of two spans. -/
def shorter (a b : Duration) : Duration := ⟨min a.nanos b.nanos⟩

/-! ## Seconds -/

/-- A span in seconds: whole seconds and, added to them, the fraction. -/
def asDouble (d : Duration) : Double :=
  (Double.ofNat d.seconds).add
    ((Double.ofNat (d.nanos % 1000000000)).div (Double.ofNat 1000000000))

/-- The span of a number of seconds, to the nearest nanosecond.  Numbers below zero, numbers that are too
large and what is not a finite number have none. -/
def ofNumber? (x : Double) : Option Duration :=
  let nanos := Double.roundDiv (x.units * 1000000000) Double.perOne
  if x.isFinite ∧ x.isNonNegative ∧ nanos ≤ longest.nanos then some ⟨nanos⟩ else none

/-- A span multiplied by a double, if there is such a span. -/
def scaled? (d : Duration) (factor : Double) : Option Duration := ofNumber? (factor.mul d.asDouble)

/-! ## Text -/

/-- A whole part and a fraction of `width` digits, without the zeros at its end. -/
def fraction (whole part width : Nat) : List Char :=
  let digits := Text.decimal part
  let padded := List.replicate (width - digits.length) '0' ++ digits
  let kept := (padded.reverse.dropWhile (· = '0')).reverse
  Text.decimal whole ++ (if kept.isEmpty then [] else '.' :: kept)

/-- A span in the largest unit that it reaches. -/
def text (d : Duration) : String :=
  let n := d.nanos
  String.ofList <|
    if 1000000000 ≤ n then fraction (n / 1000000000) (n % 1000000000) 9 ++ ['s']
    else if 1000000 ≤ n then fraction (n / 1000000) (n % 1000000) 6 ++ ['m', 's']
    else if 1000 ≤ n then fraction (n / 1000) (n % 1000) 3 ++ ['µ', 's']
    else fraction n 0 0 ++ ['n', 's']

end Duration

end Switchyard
