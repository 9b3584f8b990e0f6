/-
The ASCII form of a domain.

Characters are mapped and composed, the domain is cut into labels, each label is checked, and labels
outside ASCII are written in their ASCII form after `xn--`.  A label that already is in that form is
read back and held to the same rules.
-/
import Switchyard.Idna.Label
import Switchyard.Idna.Mapping
import Switchyard.Idna.Punycode

namespace Switchyard.Idna

/-- ASCII characters that no domain may hold. -/
def isForbiddenAscii (n : Nat) : Bool :=
  n ≤ 0x20 || n == 0x7F ||
    n ∈ ['%', '#', '/', ':', '<', '>', '?', '@', '[', '\\', ']', '^', '|'].map Char.toNat

/-- What marks the ASCII form of a label. -/
def mark : List Nat := "xn--".toList.map Char.toNat

def isAscii (ns : List Nat) : Bool := ns.all (· < 128)

/-- Mapped and composed code points, if none is forbidden. -/
def prepare (ns : List Nat) : Option (List Nat) := (mapCodes ns).map normalize

/-- The label behind a marked ASCII form: outside ASCII, and left as it is by preparation. -/
def unmark (form : List Nat) : Option (List Nat) := do
  let label ← if isAscii form then Punycode.decode (form.map Char.ofNat) else none
  if isAscii label || prepare label != some label then none else some label

/-- A label with its ASCII form. -/
structure Label where
  codes : List Nat
  ascii : List Char

/-- Reads one label of a prepared domain. -/
def Label.read (ns : List Nat) : Option Label :=
  if ns.take 4 = mark then do
    let codes ← unmark (ns.drop 4)
    if labelFits codes then some ⟨codes, ns.map Char.ofNat⟩ else none
  else if isAscii ns then some ⟨ns, ns.map Char.ofNat⟩
  else if labelFits ns then some ⟨ns, "xn--".toList ++ Punycode.encode ns⟩
  else none

/-- The ASCII form of a domain; nothing when it has none. -/
def toAscii (cs : List Char) : Option (List Char) := do
  let ns ← prepare (cs.map Char.toNat)
  if ns.any isForbiddenAscii then none
  else
    let labels ← (Text.splitAll 46 ns).mapM Label.read
    let mixed := labels.any fun l => l.codes.any isRightToLeft
    if mixed && !labels.all (fun l => directionFits l.codes) then none
    else some (Text.joinWith '.' (labels.map (·.ascii)))

end Switchyard.Idna
