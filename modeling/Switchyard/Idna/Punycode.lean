/-
The ASCII form of a label: its ASCII characters, then where and which the others are.

The other characters are taken in ascending order.  Each is written as a number of steps, in digits
whose weights adapt to the numbers before.
-/
import Switchyard.Text.Split

namespace Switchyard.Idna.Punycode

/-! ## Digits -/

/-- Letters are the digits from zero on, figures those from twenty-six on. -/
def digit (d : Nat) : Char := Char.ofNat (if d < 26 then 97 + d else 22 + d)

/-- The value of a digit. -/
def digitValue? (c : Char) : Option Nat :=
  if 'a' ≤ c ∧ c ≤ 'z' then some (c.toNat - 97)
  else if 'A' ≤ c ∧ c ≤ 'Z' then some (c.toNat - 65)
  else if c.isDigit then some (c.toNat - 22)
  else none

/-- The least digit that does not end a number at a position. -/
def threshold (position bias : Nat) : Nat := min 26 (max 1 (position - bias))

theorem threshold_pos (position bias : Nat) : 1 ≤ threshold position bias := by
  unfold threshold; omega

theorem threshold_le (position bias : Nat) : threshold position bias ≤ 26 := by
  unfold threshold; omega

/-- Divides until the number is small; counts the divisions. -/
def shrink (delta : Nat) : Nat × Nat :=
  if 455 < delta then
    let r := shrink (delta / 35)
    (r.1, r.2 + 1)
  else (delta, 0)
termination_by delta
decreasing_by exact Nat.div_lt_self (by omega) (by omega)

/-- The bias after a number of steps; the first number weighs less. -/
def adapt (delta count : Nat) (first : Bool) : Nat :=
  let delta := if first then delta / 700 else delta / 2
  let r := shrink (delta + delta / count)
  36 * r.2 + 36 * r.1 / (r.1 + 38)

/-! ## Writing -/

/-- The digits of a number of steps. -/
def encodeNumber (bias position q : Nat) : List Char :=
  let t := threshold position bias
  if q < t then [digit q]
  else digit (t + (q - t) % (36 - t)) :: encodeNumber bias (position + 36) ((q - t) / (36 - t))
termination_by q
decreasing_by
  have h1 := threshold_pos position bias
  have h2 : (q - threshold position bias) / (36 - threshold position bias) ≤
      q - threshold position bias := Nat.div_le_self _ _
  omega

/-- Where the writer stands: steps since the last character, the bias, and how many characters are
written. -/
structure Writer where
  delta : Nat
  bias : Nat
  written : Nat
  first : Bool

/-- Walks over a label once, writing a number at each place of the character `m`. -/
def writePass (m : Nat) : List Nat → Writer → List Char × Writer
  | [], w => ([], w)
  | c :: cs, w =>
    if c < m then writePass m cs { w with delta := w.delta + 1 }
    else if c = m then
      let number := encodeNumber w.bias 36 w.delta
      let r := writePass m cs
        ⟨0, adapt w.delta (w.written + 1) w.first, w.written + 1, false⟩
      (number ++ r.1, r.2)
    else writePass m cs w

/-- Writes the characters of a list, in ascending order, into a label; `previous` is the character
after the one written before. -/
def writeAll (label : List Nat) : List Nat → Nat → Writer → List Char
  | [], _, _ => []
  | m :: ms, previous, w =>
    let w := { w with delta := w.delta + (m - previous) * (w.written + 1) }
    let (text, w) := writePass m label w
    text ++ writeAll label ms (m + 1) { w with delta := w.delta + 1 }

/-- The ASCII form of a label, without what marks it as such. -/
def encode (label : List Nat) : List Char :=
  let basic := label.filter (· < 128)
  let others := ((label.filter (128 ≤ ·)).mergeSort (· ≤ ·)).eraseDups
  let start := basic.map Char.ofNat ++ (if basic.isEmpty then [] else ['-'])
  start ++ writeAll label others 128 ⟨0, 72, basic.length, true⟩

/-! ## Reading -/

/-- A number from its digits: the value and the rest. -/
def decodeNumber (bias : Nat) : List Char → Nat → Nat → Nat → Option (Nat × List Char)
  | [], _, _, _ => none
  | c :: cs, position, weight, acc =>
    match digitValue? c with
    | none => none
    | some d =>
      let t := threshold position bias
      let acc := acc + d * weight
      if d < t then some (acc, cs) else decodeNumber bias cs (position + 36) (weight * (36 - t)) acc

theorem length_of_decodeNumber {bias : Nat} {cs : List Char} {position weight acc n : Nat}
    {rest : List Char} (h : decodeNumber bias cs position weight acc = some (n, rest)) :
    rest.length < cs.length := by
  induction cs generalizing position weight acc with
  | nil => simp [decodeNumber] at h
  | cons c cs ih =>
      simp only [decodeNumber] at h
      split at h
      · simp at h
      · split at h
        · simp only [Option.some.injEq, Prod.mk.injEq] at h
          simp [h.2]
        · exact Nat.lt_succ_of_lt (ih h)

/-- Puts the characters that the numbers spell into a label. -/
def decodeAll (cs : List Char) (label : List Nat) (last index bias : Nat) (first : Bool) :
    Option (List Nat) :=
  if cs.isEmpty then some label
  else
    match h : decodeNumber bias cs 36 1 0 with
    | none => none
    | some (delta, rest) =>
      let place := index + delta
      let size := label.length + 1
      let code := last + place / size
      let at_ := place % size
      if code.isValidChar then
        decodeAll rest (label.take at_ ++ code :: label.drop at_) code (at_ + 1)
          (adapt delta size first) false
      else none
termination_by cs.length
decreasing_by exact length_of_decodeNumber h

/-- The label that an ASCII form spells; what stands before the last hyphen is kept as it is. -/
def decode (cs : List Char) : Option (List Nat) :=
  match Text.splitOnce '-' cs.reverse with
  | some (after, before) =>
    if before.isEmpty then decodeAll cs [] 128 0 72 true
    else decodeAll after.reverse (before.reverse.map Char.toNat) 128 0 72 true
  | none => decodeAll cs [] 128 0 72 true

end Switchyard.Idna.Punycode
