/-
Percent escapes: `%` and two hexadecimal digits stand for a byte.
-/
import Switchyard.Text.Digits
import Switchyard.Text.Utf8

namespace Switchyard.Text.Percent

/-- The escape of a byte, with upper-case digits. -/
def escape (b : UInt8) : List Char :=
  ['%', upperHexDigit (b.toNat / 16), upperHexDigit (b.toNat % 16)]

/-- Escapes the bytes of every character of a class. -/
def encode (escaped : Char → Bool) (cs : List Char) : List Char :=
  cs.flatMap fun c => if escaped c then (String.utf8EncodeChar c).flatMap escape else [c]

theorem encode_of_none {escaped : Char → Bool} {cs : List Char}
    (h : ∀ c ∈ cs, escaped c = false) : encode escaped cs = cs := by
  induction cs with
  | nil => rfl
  | cons c cs ih =>
      have hc := h c (by simp)
      have := ih fun d hd => h d (by simp [hd])
      simp only [encode, List.flatMap_cons, hc] at *
      simp [this]

/-- The bytes of a text in which escapes stand for the byte they spell; a `%` without two digits
after it stands for itself. -/
def decode : List Char → List UInt8
  | '%' :: a :: b :: cs =>
    match hexValue? a, hexValue? b with
    | some x, some y => UInt8.ofNat (x * 16 + y) :: decode cs
    | _, _ => String.utf8EncodeChar '%' ++ decode (a :: b :: cs)
  | c :: cs => String.utf8EncodeChar c ++ decode cs
  | [] => []

end Switchyard.Text.Percent
