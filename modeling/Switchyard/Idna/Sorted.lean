/-
Tables sorted by a number, searched by halving.
-/
import Switchyard.Text.Digits

namespace Switchyard.Idna

/-- Entries in ascending order of their keys. -/
structure Sorted (α : Type) where
  entries : Array (Nat × α)

namespace Sorted

/-- The last of the entries from `low` on, below `high`, whose key is not above `key`. -/
def search {α : Type} (entries : Array (Nat × α)) (key : Nat) : Nat → Nat → Nat → Option (Nat × α)
  | 0, _, _ => none
  | fuel + 1, low, high =>
    if high ≤ low then none
    else if high = low + 1 then (entries[low]?).filter (·.1 ≤ key)
    else
      let mid := (low + high) / 2
      match entries[mid]? with
      | some entry =>
        if entry.1 ≤ key then search entries key fuel mid high else search entries key fuel low mid
      | none => none

/-- The last entry whose key is not above a number. -/
def floor? {α : Type} (t : Sorted α) (key : Nat) : Option (Nat × α) :=
  search t.entries key 64 0 t.entries.size

/-- The entry with a key. -/
def get? {α : Type} (t : Sorted α) (key : Nat) : Option α :=
  ((t.floor? key).filter (·.1 = key)).map (·.2)

/-- The value of the run that a number lies in. -/
def run? {α : Type} (t : Sorted α) (key : Nat) : Option α := (t.floor? key).map (·.2)

/-- Runs given by their lengths, one after another from zero. -/
def ofLengths {α : Type} (runs : List (Nat × α)) : Sorted α :=
  ⟨(runs.foldl (fun (acc : Array (Nat × α) × Nat) r => (acc.1.push (acc.2, r.2), acc.2 + r.1))
    (#[], 0)).1⟩

/-- Entries given by the distance of each key from the one before. -/
def ofDistances {α : Type} (steps : List (Nat × α)) : Sorted α :=
  ⟨(steps.foldl (fun (acc : Array (Nat × α) × Nat) s => (acc.1.push (acc.2 + s.1, s.2), acc.2 + s.1))
    (#[], 0)).1⟩

end Sorted

/-! ## Table text -/

/-- A lower-case hexadecimal number at the front of a table entry. -/
def leadingHex (cs : List Char) : Nat × List Char :=
  let digits := cs.takeWhile fun c => c.isDigit || ('a' ≤ c && c ≤ 'f')
  ((Text.readDigits 16 0 digits).getD 0, cs.drop digits.length)

/-- Hexadecimal numbers with dots between them. -/
def dottedHex (cs : List Char) : List Nat :=
  ((String.ofList cs).splitOn ".").map fun s => (Text.readDigits 16 0 s.toList).getD 0

/-- The entries in the rows of a table, each with its leading number. -/
def entriesOf (rows : List String) : List (Nat × List Char) :=
  rows.flatMap fun row => (row.splitOn " ").map fun s => leadingHex s.toList

end Switchyard.Idna
