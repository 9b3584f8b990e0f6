/-
Reading typed values from JSON texts.

Lists and records may be nested up to a depth; values that are passed over may be nested as deep as they
like.
-/
import Switchyard.Document.Readable
import Switchyard.Json.Number

namespace Switchyard.Json

/-- A tree and the levels that may still be opened, this one included. -/
structure Place where
  tree : Tree
  room : Nat

/-- The deepest level plus one. -/
def maxDepth : Nat := 128

namespace Tree

/-! ## Faults -/

/-- The fault of a value that something else was expected of. -/
def mismatch : Tree → Fault
  | .number n => if n.meaning.isSome then .mismatched else .malformed
  | .text (.error f) => f
  | .broken cut => cut.used
  | _ => .mismatched

end Tree

namespace Ending

/-- The fault met by asking for another item. -/
def more : Ending → Option Fault
  | closed => none
  | stray f | dangling f => some f

/-- The fault met by asking for the end. -/
def stop : Ending → Option Fault
  | closed => none
  | stray f => some f
  | dangling _ => some .malformed

end Ending

namespace Tree

mutual

/-- Passes over a value; some faults only matter to those who use it. -/
def skip : Tree → Except Fault Unit
  | .list items ending => do
    skipItems items
    Readable.endWith ending.more
  | .record members ending => do
    skipMembers members
    Readable.endWith ending.more
  | .broken cut => .error cut.skipped
  | _ => .ok ()

/-- Passes over the items of a list. -/
def skipItems : List Tree → Except Fault Unit
  | [] => .ok ()
  | t :: ts => do
    skip t
    skipItems ts

/-- Passes over the members of a record. -/
def skipMembers : List (Except Fault String × Tree) → Except Fault Unit
  | [] => .ok ()
  | (_, t) :: ms => do
    skip t
    skipMembers ms

end

/-! ## Contents -/

/-- The document that a number is. -/
def numberContent (n : Numeral) : Except Fault Content :=
  match n.meaning with
  | some (.natural k) => .ok (.natural k)
  | some (.negative k) => .ok (.negative k)
  | some (.double x) => .ok (.double x)
  | none => .error .malformed

mutual

/-- The document that a tree is, if it is not nested too deep. -/
def content (room : Nat) : Tree → Except Fault Content
  | .null => .ok .null
  | .flag b => .ok (.flag b)
  | .number n => numberContent n
  | .text t => t.map .text
  | .list items ending =>
    if room ≤ 1 then .error .malformed
    else do
      let items ← contentItems (room - 1) items
      Readable.endWith ending.more
      return .list items
  | .record members ending =>
    if room ≤ 1 then .error .malformed
    else do
      let members ← contentMembers (room - 1) members
      Readable.endWith ending.more
      return .record members
  | .broken cut => .error cut.used

/-- The documents that the items of a list are. -/
def contentItems (room : Nat) : List Tree → Except Fault (List Content)
  | [] => .ok []
  | t :: ts => do
    let c ← content room t
    return c :: (← contentItems room ts)

/-- The documents that the members of a record are. -/
def contentMembers (room : Nat) : List (Except Fault String × Tree) →
    Except Fault (List (Content × Content))
  | [] => .ok []
  | (key, t) :: ms => do
    let k ← key
    let c ← content room t
    return (.text k, c) :: (← contentMembers room ms)

end

end Tree

/-! ## Reading -/

namespace Place

/-- The items of a list, one level down. -/
def row (room : Nat) (items : List Tree) (ending : Ending) : Row Place :=
  { items := items.map (⟨·, room - 1⟩), more := ending.more, stop := ending.stop, excess := .malformed }

/-- The members of a record, one level down. -/
def table (room : Nat) (members : List (Except Fault String × Tree)) (ending : Ending) : Table Place :=
  { members := members.map fun m =>
      (match m.1 with | .ok s => .name s | .error f => .fault f, ⟨m.2, room - 1⟩)
    more := ending.more }

/-- The fields of a record, which may be written as a list. -/
def shape (p : Place) : Except Fault (Shape Place) :=
  match p.tree with
  | .list items ending =>
    if p.room ≤ 1 then .error .malformed else .ok (.listed (row p.room items ending))
  | .record members ending =>
    if p.room ≤ 1 then .error .malformed else .ok (.named (table p.room members ending))
  | t => .error t.mismatch

end Place

instance : Readable Place where
  text p := match p.tree with
    | .text t => t
    | t => .error t.mismatch
  natural p := match p.tree with
    | .number n =>
      match n.meaning with
      | some (.natural k) => .ok k
      | some _ => .error .mismatched
      | none => .error .malformed
    | t => .error t.mismatch
  flag p := match p.tree with
    | .flag b => .ok b
    | t => .error t.mismatch
  present p := match p.tree with
    | .null => .ok none
    | _ => .ok (some p)
  list p := match p.tree with
    | .list items ending =>
      if p.room ≤ 1 then .error .malformed else .ok (Place.row p.room items ending)
    | t => .error t.mismatch
  record p := p.shape
  tagged p := p.shape
  skip p := p.tree.skip
  content p := p.tree.content p.room

/-- Reads a whole text; nothing may follow the value. -/
def readAll {α : Type} (read : Place → Except Fault α) (cs : List Char) : Except Fault α :=
  let (tree, trailing) := Tree.read cs
  match read ⟨tree, maxDepth⟩ with
  | .ok a => if trailing then .error .malformed else .ok a
  | .error f => .error f

end Switchyard.Json
