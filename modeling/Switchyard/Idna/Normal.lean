/-
The composed normal form of text.

A text is taken apart completely, marks are put in the order of their combining classes, and then
characters that have a common composition are put together again.
-/
import Switchyard.Idna.Sorted
import Switchyard.Idna.Table.Classes
import Switchyard.Idna.Table.Composition

namespace Switchyard.Idna

/-! ## Tables -/

/-- A character taken apart once, and whether the parts are put together again. -/
structure Decomposition where
  parts : List Nat
  composes : Bool

/-- The characters that can be taken apart, Hangul aside. -/
def decompositions : Sorted Decomposition :=
  Sorted.ofDistances <|
    (entriesOf Table.composition).map fun e => (e.1, ⟨dottedHex (e.2.drop 1), e.2.head? = some 'M'⟩)

/-- One key for two code points. -/
def pairKey (a b : Nat) : Nat := a * 0x200000 + b

/-- The compositions of two characters. -/
def compositions : Sorted Nat :=
  let pairs := decompositions.entries.toList.filterMap fun (c, d) =>
    match d.parts, d.composes with
    | [a, b], true => some (pairKey a b, c)
    | _, _ => none
  ⟨(pairs.mergeSort fun x y => x.1 ≤ y.1).toArray⟩

/-- The combining class of every code point. -/
def combiningClasses : Sorted Nat :=
  Sorted.ofLengths ((entriesOf Table.combining).map fun e => (e.1, (leadingHex (e.2.drop 1)).1))

/-- The combining class: zero for characters that start a combination. -/
def combiningClass (n : Nat) : Nat := (combiningClasses.run? n).getD 0

/-! ## Hangul -/

/-- Syllables start here. -/
def hangulBase : Nat := 0xAC00

/-- The parts of a syllable: initial, vowel and, for some, final. -/
def decomposeHangul (n : Nat) : Option (List Nat) :=
  if hangulBase ≤ n ∧ n < hangulBase + 11172 then
    let s := n - hangulBase
    let parts := [0x1100 + s / 588, 0x1161 + s % 588 / 28]
    some (if s % 28 = 0 then parts else parts ++ [0x11A7 + s % 28])
  else none

/-- The syllable of an initial and a vowel, or of a syllable and a final. -/
def composeHangul (a b : Nat) : Option Nat :=
  if 0x1100 ≤ a ∧ a < 0x1113 ∧ 0x1161 ≤ b ∧ b < 0x1176 then
    some (hangulBase + ((a - 0x1100) * 21 + (b - 0x1161)) * 28)
  else if hangulBase ≤ a ∧ a < hangulBase + 11172 ∧ (a - hangulBase) % 28 = 0 ∧ 0x11A7 < b ∧ b < 0x11C3 then
    some (a + (b - 0x11A7))
  else none

/-! ## Taking apart and putting together -/

/-- The parts of a character, to the given depth. -/
def decompose : Nat → Nat → List Nat
  | 0, n => [n]
  | depth + 1, n =>
    match decomposeHangul n with
    | some parts => parts
    | none =>
      match decompositions.get? n with
      | some d => d.parts.flatMap (decompose depth)
      | none => [n]

/-- Puts a character with its class behind all before it that are not above its class. -/
def insertMark (x : Nat × Nat) : List (Nat × Nat) → List (Nat × Nat)
  | [] => [x]
  | y :: ys => if x.2 < y.2 then x :: y :: ys else y :: insertMark x ys

/-- Orders each run of marks by class and keeps the order within a class. -/
def orderMarks : List (Nat × Nat) → List (Nat × Nat) → List (Nat × Nat)
  | [], run => run
  | x :: xs, run => if x.2 = 0 then run ++ x :: orderMarks xs [] else orderMarks xs (insertMark x run)

/-- The composition of two characters. -/
def composePair (a b : Nat) : Option Nat :=
  (composeHangul a b).orElse fun _ => compositions.get? (pairKey a b)

/-- Puts together what follows a starter.  `kept` are the marks after it that did not combine, the
latest first; a mark of the class of the latest, or below it, cannot reach the starter. -/
def composeFrom (starter : Nat) : List (Nat × Nat) → List (Nat × Nat) → List Nat
  | [], kept => starter :: kept.reverse.map (·.1)
  | (c, cls) :: rest, kept =>
    let reachable := match kept with
      | [] => true
      | (_, last) :: _ => last < cls
    match if reachable then composePair starter c else none with
    | some joined => composeFrom joined rest kept
    | none =>
      if cls = 0 then starter :: kept.reverse.map (·.1) ++ composeFrom c rest []
      else composeFrom starter rest ((c, cls) :: kept)

/-- Leading marks stay as they are. -/
def composeAll : List (Nat × Nat) → List Nat
  | [] => []
  | (c, cls) :: rest => if cls = 0 then composeFrom c rest [] else c :: composeAll rest

/-- The composed normal form. -/
def normalize (ns : List Nat) : List Nat :=
  let parts := ns.flatMap (decompose 8)
  composeAll (orderMarks (parts.map fun n => (n, combiningClass n)) [])

end Switchyard.Idna
