/-
Version 4 addresses and their dotted form.
-/
import Switchyard.Net.Number

namespace Switchyard.Net

/-- A version 4 address by its four bytes. -/
structure Ipv4 where
  a : UInt8
  b : UInt8
  c : UInt8
  d : UInt8
deriving DecidableEq, Repr

namespace Ipv4

/-- The address whose bytes, read as one number, are `n`. -/
def ofNat (n : Nat) : Ipv4 :=
  ⟨UInt8.ofNat (n / 0x1000000), UInt8.ofNat (n / 0x10000), UInt8.ofNat (n / 0x100), UInt8.ofNat n⟩

/-- Four decimal numbers with dots between them. -/
def text (ip : Ipv4) : List Char :=
  Text.decimal ip.a.toNat ++ '.' :: Text.decimal ip.b.toNat ++ '.' :: Text.decimal ip.c.toNat
    ++ '.' :: Text.decimal ip.d.toNat

/-- One part of the dotted form: at most three digits, none of them a leading zero. -/
def part : NumberForm := { base := 10, maxDigits := some 3, leadingZero := false, bound := 256 }

/-- An address in dotted form at the front of a text. -/
def read (cs : List Char) : Option (Ipv4 × List Char) := do
  let (a, cs) ← readNumber part cs
  let (b, cs) ← readNumber part (← readSeparator '.' 1 cs)
  let (c, cs) ← readNumber part (← readSeparator '.' 2 cs)
  let (d, cs) ← readNumber part (← readSeparator '.' 3 cs)
  return (⟨UInt8.ofNat a, UInt8.ofNat b, UInt8.ofNat c, UInt8.ofNat d⟩, cs)

end Ipv4

end Switchyard.Net
