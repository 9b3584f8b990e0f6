/-
What a label may hold: no leading mark, joiners only where they have an effect, and text of one
direction when any label of the domain runs from right to left.
-/
import Switchyard.Idna.Normal

namespace Switchyard.Idna

/-! ## Classes -/

/-- Runs whose values are the letters after their lengths. -/
def letterRuns (rows : List String) : Sorted Char :=
  Sorted.ofLengths ((entriesOf rows).map fun e => (e.1, e.2.headD 'X'))

def directions : Sorted Char := letterRuns Table.direction

def joinings : Sorted Char := letterRuns Table.joining

/-- Where runs of marks and other characters start; every second run holds marks. -/
def markRuns : Sorted Bool :=
  Sorted.ofLengths ((entriesOf Table.marks).zipIdx.map fun (e, i) => (e.1, i % 2 = 1))

/-- The letter of the direction of a character. -/
def direction (n : Nat) : Char := (directions.run? n).getD 'X'

/-- The letter of how a character joins its neighbours. -/
def joining (n : Nat) : Char := (joinings.run? n).getD 'U'

def isMark (n : Nat) : Bool := (markRuns.run? n).getD false

/-- A character that suppresses the vowel of the one before it. -/
def isVirama (n : Nat) : Bool := combiningClass n = 9

/-! ## Joiners -/

/-- The nearest character that counts for joining joins on one of the given sides. -/
def joins (sides : List Char) (ns : List Nat) : Bool :=
  match ns.dropWhile (joining · == 'T') with
  | n :: _ => joining n ∈ sides
  | [] => false

/-- Whether every joiner has an effect.  `before` is what precedes, the latest first. -/
def joinersFit : List Nat → List Nat → Bool
  | [], _ => true
  | n :: rest, before =>
    let afterVirama := match before with
      | p :: _ => isVirama p
      | [] => false
    let fits :=
      if n = 0x200C then
        afterVirama || (joins ['L', 'Y'] before && joins ['R', 'Y'] rest)
      else if n = 0x200D then afterVirama
      else true
    fits && joinersFit rest (n :: before)

/-- Whether a label that is not plain ASCII is well formed. -/
def labelFits (label : List Nat) : Bool :=
  (match label with
    | n :: _ => !isMark n
    | [] => true) && joinersFit label []

/-! ## Direction -/

/-- A character of text that runs from right to left. -/
def isRightToLeft (n : Nat) : Bool := direction n ∈ ['R', 'K', 'N']

/-- Whether a label keeps to one direction. -/
def directionFits (label : List Nat) : Bool :=
  let ds := label.map direction
  let last := ds.reverse.dropWhile (· == 'M')
  match ds with
  | [] => true
  | d :: _ =>
    if d = 'L' then
      ds.all (· ∈ ['L', 'Y', 'S', 'Z', 'T', 'O', 'V', 'M']) &&
        (last.head?.any fun e => e == 'L' || e == 'Y')
    else if d = 'R' ∨ d = 'K' then
      ds.all (· ∈ ['R', 'K', 'N', 'Y', 'S', 'Z', 'T', 'O', 'V', 'M']) &&
        (last.head?.any fun e => e ∈ ['R', 'K', 'Y', 'N']) &&
        !(ds.contains 'Y' && ds.contains 'N')
    else false

end Switchyard.Idna
