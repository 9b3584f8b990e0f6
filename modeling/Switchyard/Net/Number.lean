/-
Reading a bounded number from the front of a text.
-/
import Switchyard.Text.Digits

namespace Switchyard.Net

/-- How a number may be written. -/
structure NumberForm where
  base : Nat
  /-- The most digits, if there is such a limit. -/
  maxDigits : Option Nat
  /-- Whether zeros may stand in front. -/
  leadingZero : Bool
  /-- The number lies below this. -/
  bound : Nat

/-- The digits at the front: their number, how many there are, and the rest. -/
def spanDigits (base : Nat) : List Char → Nat → Nat → Nat × Nat × List Char
  | [], value, count => (value, count, [])
  | c :: cs, value, count =>
    match Text.digitValue? base c with
    | some d => spanDigits base cs (value * base + d) (count + 1)
    | none => (value, count, c :: cs)

/-- A number in a form, and the rest of the text. -/
def readNumber (form : NumberForm) (cs : List Char) : Option (Nat × List Char) :=
  let (value, count, rest) := spanDigits form.base cs 0 0
  let tooLong := form.maxDigits.any (· < count)
  let padded := cs.head? == some '0' && 1 < count && !form.leadingZero
  if count = 0 ∨ tooLong ∨ padded ∨ form.bound ≤ value then none else some (value, rest)

/-- A separator in front of every item but the first. -/
def readSeparator (sep : Char) (index : Nat) (cs : List Char) : Option (List Char) :=
  if index = 0 then some cs
  else match cs with
    | c :: rest => if c = sep then some rest else none
    | [] => none

end Switchyard.Net
