/-
Version 6 addresses and their text forms.

An address is eight groups of sixteen bits.  `text` leaves out the first longest run of two or more
zero groups; `mappedText` also writes an address that stands for a version 4 one in dotted form.
-/
import Switchyard.Net.Ipv4

namespace Switchyard.Net

/-- A version 6 address by its eight groups. -/
structure Ipv6 where
  groups : List UInt16
  length_groups : groups.length = 8

namespace Ipv6

instance : DecidableEq Ipv6 := fun x y =>
  decidable_of_iff (x.groups = y.groups) (by
    cases x; cases y; simp)

theorem ext_groups {x y : Ipv6} (h : x.groups = y.groups) : x = y := by
  cases x; cases y; simp_all

/-! ## Writing -/

/-- A run of zero groups: where it starts and how long it is. -/
structure Run where
  start : Nat
  length : Nat
deriving DecidableEq

/-- The first longest run of zeros, given the best run so far and the run that ends here. -/
def longestRun : List UInt16 → Nat → Run → Run → Run
  | [], _, _, best => best
  | g :: gs, index, current, best =>
    if g = 0 then
      let current : Run := if current.length = 0 then ⟨index, 1⟩ else ⟨current.start, current.length + 1⟩
      longestRun gs (index + 1) current (if best.length < current.length then current else best)
    else longestRun gs (index + 1) ⟨0, 0⟩ best

/-- Groups in hexadecimal with colons between them. -/
def groupsText : List UInt16 → List Char
  | [] => []
  | [g] => Text.hex g.toNat
  | g :: gs => Text.hex g.toNat ++ ':' :: groupsText gs

/-- The groups in hexadecimal, the first longest run of at least two zeros left out. -/
def text (ip : Ipv6) : List Char :=
  let run := longestRun ip.groups 0 ⟨0, 0⟩ ⟨0, 0⟩
  if 1 < run.length then
    groupsText (ip.groups.take run.start) ++ ':' :: ':' ::
      groupsText (ip.groups.drop (run.start + run.length))
  else groupsText ip.groups

/-- The version 4 address that an address stands for: five zero groups and one of ones come
first. -/
def mapped? (ip : Ipv6) : Option Ipv4 :=
  match ip.groups with
  | [0, 0, 0, 0, 0, 0xFFFF, x, y] => some (Ipv4.ofNat (x.toNat * 0x10000 + y.toNat))
  | _ => none

/-- The text form in which mapped version 4 addresses are dotted. -/
def mappedText (ip : Ipv6) : List Char :=
  match ip.mapped? with
  | some v4 => "::ffff:".toList ++ v4.text
  | none => ip.text

/-! ## Reading -/

/-- One group: up to four hexadecimal digits. -/
def group : NumberForm := { base := 16, maxDigits := some 4, leadingZero := true, bound := 65536 }

/-- The two groups that a dotted address fills. -/
def dottedGroups (ip : Ipv4) : List UInt16 :=
  [UInt16.ofNat (ip.a.toNat * 256 + ip.b.toNat), UInt16.ofNat (ip.c.toNat * 256 + ip.d.toNat)]

/-- Up to `room` groups, the last two of them perhaps in dotted form; whether they were, and the
rest of the text. -/
def readGroups : Nat → Nat → List Char → List UInt16 × Bool × List Char
  | 0, _, cs => ([], false, cs)
  | room + 1, index, cs =>
    let dotted := if 0 < room then (readSeparator ':' index cs).bind Ipv4.read else none
    match dotted with
    | some (v4, rest) => (dottedGroups v4, true, rest)
    | none =>
      match (readSeparator ':' index cs).bind (readNumber group) with
      | some (g, rest) =>
        let (gs, dotted, rest) := readGroups room (index + 1) rest
        (UInt16.ofNat g :: gs, dotted, rest)
      | none => ([], false, cs)

/-- Eight groups, if there are that many. -/
def ofGroups? (gs : List UInt16) : Option Ipv6 :=
  if h : gs.length = 8 then some ⟨gs, h⟩ else none

/-- An address at the front of a text.  One `::` stands for one or more zero groups, and nothing
but it may follow a dotted part before it. -/
def read (cs : List Char) : Option (Ipv6 × List Char) :=
  match readGroups 8 0 cs with
  | (head, dotted, rest) =>
    if head.length = 8 then (ofGroups? head).map (·, rest)
    else if dotted then none
    else match rest with
      | ':' :: ':' :: rest =>
        match readGroups (7 - head.length) 0 rest with
        | (tail, _, rest) =>
          (ofGroups? (head ++ List.replicate (8 - head.length - tail.length) 0 ++ tail)).map (·, rest)
      | _ => none

/-- The address that a whole text spells. -/
def ofText? (cs : List Char) : Option Ipv6 :=
  match read cs with
  | some (ip, []) => some ip
  | _ => none

end Ipv6

end Switchyard.Net
