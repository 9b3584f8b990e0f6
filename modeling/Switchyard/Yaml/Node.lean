/-
The nodes of a YAML document.

A reference stands for the node with an anchor.  It is kept as it is, since a node may refer to a node
around it.
-/
import Switchyard.Yaml.Token

namespace Switchyard.Yaml

inductive Node where
  | scalar (text : List Char) (style : Style) (tag : Option (List Char))
  | list (items : List Node) (tag : Option (List Char))
  | record (members : List (Node × Node)) (tag : Option (List Char))
  /-- The node with an anchor of this number. -/
  | reference (id : Nat)
  /-- What a text without documents holds. -/
  | void

namespace Node

/-- A value that is left out. -/
def empty : Node := .scalar [] .plain none

/-- The node with a tag; on a scalar the tag `!` says nothing. -/
def scalarOf (text : List Char) (style : Style) (tag : Option (List Char)) : Node :=
  .scalar text style (tag.filter (· ≠ ['!']))

mutual

/-- How many starts, ends and scalars write a node. -/
def size : Node → Nat
  | .list items _ => sizeItems items + 2
  | .record members _ => sizeMembers members + 2
  | _ => 1

def sizeItems : List Node → Nat
  | [] => 0
  | n :: ns => size n + sizeItems ns

def sizeMembers : List (Node × Node) → Nat
  | [] => 0
  | (k, v) :: ms => size k + size v + sizeMembers ms

end

end Node

/-- The nodes with anchors.  An anchor has a number, and a number has a place: the last one where an anchor
got that number. -/
structure Anchors where
  /-- The number of each name; a name may get another number. -/
  ids : List (List Char × Nat) := []
  /-- The places of each number, the last one first. -/
  places : List (Nat × Nat) := []
  /-- The nodes that were read at the places. -/
  nodes : List (Nat × Node) := []

namespace Anchors

/-- A new anchor: its number is how many names there are.  Gives its place. -/
def add (a : Anchors) (name : List Char) : Nat × Anchors :=
  let id := a.ids.length
  let place := a.places.length
  (place, { a with ids := (name, id) :: a.ids.filter (·.1 ≠ name), places := (id, place) :: a.places })

/-- The node at a place. -/
def put (a : Anchors) (place : Nat) (n : Node) : Anchors := { a with nodes := (place, n) :: a.nodes }

/-- The number of a name. -/
def id? (a : Anchors) (name : List Char) : Option Nat := a.ids.lookup name

/-- The node with a number. -/
def node? (a : Anchors) (id : Nat) : Option Node := (a.places.lookup id).bind fun place => a.nodes.lookup place

end Anchors

/-- A document and its anchors. -/
structure Document where
  root : Node
  anchors : Anchors := {}

end Switchyard.Yaml
