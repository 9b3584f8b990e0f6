/-
The mapping step for domains: every character is kept, replaced, dropped or forbidden.
-/
import Switchyard.Idna.Sorted
import Switchyard.Idna.Table.Mapping

namespace Switchyard.Idna

/-- What the mapping does to a character of a run. -/
inductive Mapped where
  | keep
  | drop
  | forbid
  | plus (n : Nat)
  | minus (n : Nat)
  | pairs
  | sequence (cs : List Nat)
deriving Repr

/-- An entry of the table after its length. -/
def Mapped.ofEntry : List Char → Mapped
  | 'V' :: _ => .keep
  | 'I' :: _ => .drop
  | 'P' :: _ => .pairs
  | 'O' :: cs => .plus (leadingHex cs).1
  | 'N' :: cs => .minus (leadingHex cs).1
  | 'S' :: cs => .sequence (dottedHex cs)
  | _ => .forbid

/-- The mapping of all code points. -/
def mappingTable : Sorted Mapped :=
  Sorted.ofLengths ((entriesOf Table.mapping).map fun e => (e.1, Mapped.ofEntry e.2))

/-- The code points that stand for one; nothing when it is forbidden. -/
def mapCode (n : Nat) : Option (List Nat) :=
  match mappingTable.floor? n with
  | some (_, .keep) => some [n]
  | some (_, .drop) => some []
  | some (_, .plus k) => some [n + k]
  | some (_, .minus k) => some [n - k]
  | some (start, .pairs) => some [if (n - start) % 2 = 0 then n + 1 else n]
  | some (_, .sequence cs) => some cs
  | _ => none

/-- The code points that stand for some others, if none of these is forbidden. -/
def mapCodes (ns : List Nat) : Option (List Nat) := (ns.mapM mapCode).map List.flatten

end Switchyard.Idna
