/-
The byte form of text.

`encode` writes characters as UTF-8; `decodeLossy` reads bytes, and gives U+FFFD for each longest
ill-formed piece, as the Unicode standard recommends; `decode?` reads well-formed bytes only.
-/
namespace Switchyard.Text.Utf8

/-- The UTF-8 bytes of some characters. -/
def encode (cs : List Char) : List UInt8 := cs.flatMap String.utf8EncodeChar

@[simp] theorem encode_nil : encode [] = [] := rfl

/-! ## Reading one character -/

/-- What a leading byte announces: how many bytes follow, the bits it brings, and the bounds of
the byte right after it. -/
structure Lead where
  following : Nat
  bits : Nat
  low : Nat := 0x80
  high : Nat := 0xBF

/-- The announcement of a leading byte, if it can start a character. -/
def lead? (b : Nat) : Option Lead :=
  if b < 0x80 then some { following := 0, bits := b }
  else if b < 0xC2 then none
  else if b < 0xE0 then some { following := 1, bits := b - 0xC0 }
  else if b = 0xE0 then some { following := 2, bits := 0, low := 0xA0 }
  else if b = 0xED then some { following := 2, bits := 0xD, high := 0x9F }
  else if b < 0xF0 then some { following := 2, bits := b - 0xE0 }
  else if b = 0xF0 then some { following := 3, bits := 0, low := 0x90 }
  else if b < 0xF4 then some { following := 3, bits := b - 0xF0 }
  else if b = 0xF4 then some { following := 3, bits := 4, high := 0x8F }
  else none

/-- Reads up to `n` continuation bytes; the first must lie between the bounds.  Gives the value
when all are there, and the bytes not read. -/
def continuation : Nat → Nat → Nat → Nat → List UInt8 → Option Nat × List UInt8
  | 0, _, _, acc, bs => (some acc, bs)
  | _ + 1, _, _, _, [] => (none, [])
  | n + 1, low, high, acc, b :: bs =>
    if low ≤ b.toNat ∧ b.toNat ≤ high then
      continuation n 0x80 0xBF (acc * 64 + (b.toNat - 0x80)) bs
    else (none, b :: bs)

theorem length_continuation_le (n low high acc : Nat) (bs : List UInt8) :
    (continuation n low high acc bs).2.length ≤ bs.length := by
  induction n generalizing low high acc bs with
  | zero => simp [continuation]
  | succ n ih =>
      cases bs with
      | nil => simp [continuation]
      | cons b bs =>
          simp only [continuation]
          split
          · exact Nat.le_succ_of_le (ih ..)
          · simp

/-- The character at the front, or nothing where the bytes are ill-formed, and the rest. -/
def next (b : UInt8) (bs : List UInt8) : Option Char × List UInt8 :=
  match lead? b.toNat with
  | none => (none, bs)
  | some l =>
    let r := continuation l.following l.low l.high l.bits bs
    (r.1.map Char.ofNat, r.2)

theorem length_next_le (b : UInt8) (bs : List UInt8) : (next b bs).2.length ≤ bs.length := by
  unfold next
  split
  · simp
  · exact length_continuation_le ..

/-! ## Reading all -/

/-- The characters of some bytes; each ill-formed piece is `none`. -/
def pieces : List UInt8 → List (Option Char)
  | [] => []
  | b :: bs =>
    let r := next b bs
    r.1 :: pieces r.2
termination_by bs => bs.length
decreasing_by exact Nat.lt_succ_of_le (length_next_le b bs)

/-- The characters of some bytes, with U+FFFD for ill-formed pieces. -/
def decodeLossy (bs : List UInt8) : List Char := (pieces bs).map (·.getD '\uFFFD')

/-- The characters of well-formed bytes. -/
def decode? (bs : List UInt8) : Option (List Char) := (pieces bs).mapM id

end Switchyard.Text.Utf8
