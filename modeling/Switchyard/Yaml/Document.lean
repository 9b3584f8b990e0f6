/-
Reading typed values from YAML texts.

A text may be any scalar, whatever it means; numbers and flags are plain scalars, or literal ones that are
tagged as such.  A value that is left out reads as an empty list and as a record without members.
-/
import Switchyard.Document.Readable
import Switchyard.Yaml.Node.Parser
import Switchyard.Yaml.Schema
import Switchyard.Yaml.Token.Lexer

namespace Switchyard.Yaml

/-- A node of a document and the levels that may still be opened. -/
structure Place where
  document : Document
  node : Node
  room : Nat

/-- The deepest level. -/
def maxDepth : Nat := 128

/-- The tag of a kind of scalar. -/
def coreTag (kind : String) : List Char := "tag:yaml.org,2002:".toList ++ kind.toList

/-! ## Scalars -/

namespace Node

/-- The text of a scalar that may be of a kind: a plain one, or a literal one with the tag of the kind. -/
def literal? (kind : String) : Node → Option (List Char)
  | .scalar text .plain _ => some text
  | .scalar text .literal tag => if tag = some (coreTag kind) then some text else none
  | _ => none

/-- Whether a node is a value that is left out. -/
def isBlank : Node → Bool
  | .scalar [] .plain _ | .void => true
  | _ => false

/-- Whether a tag is one of the application. -/
def isCustom (tag : Option (List Char)) : Bool := tag.any (·.head? = some '!')

/-- The meaning of a scalar: that of its tag if it has one, else the text, or what a plain text means. -/
def scalarContent (text : List Char) (style : Style) (tag : Option (List Char)) : Except Fault Content :=
  let string : Content := .text (String.ofList text)
  match tag with
  | none => if style = .plain then Readable.require (meaning text) else .ok string
  | some tag =>
    if tag.head? = some '!' then .error .mismatched
    else if tag = coreTag "bool" then Readable.require ((flag? text).map .flag)
    else if tag = coreTag "int" then Readable.require ((integer? text).bind id)
    else if tag = coreTag "float" then Readable.require ((double? text).map .double)
    else if tag = coreTag "null" then if isNull text then .ok .null else .error .mismatched
    else .ok string

end Node

/-! ## References and contents -/

namespace Document

/-- The node that a node is, or refers to. -/
def resolve (d : Document) : Node → Except Fault Node
  | .reference id => Readable.require (d.anchors.node? id)
  | n => .ok n

/-- How many references may be followed. -/
def maxReferences (d : Document) : Nat := 100 * d.root.size

/-- The document that a node is, with at most `room` levels, following at most `references` references.
Gives how many are left. -/
def content (d : Document) : Nat → Node → Nat → Except Fault (Content × Nat)
  | room, .reference id, references => do
    let left ← if references = 0 then .error .mismatched else .ok (references - 1)
    let n ← Readable.require (d.anchors.node? id)
    match n, room with
    | .scalar text style tag, _ => return (← Node.scalarContent text style tag, left)
    | .list items tag, room + 1 =>
      if Node.isCustom tag then throw .mismatched
      let (items, left) ← contentItems (d.content room) items left
      return (.list items, left)
    | .record members tag, room + 1 =>
      if Node.isCustom tag then throw .mismatched
      let (members, left) ← contentMembers (d.content room) members left
      return (.record members, left)
    | _, _ => throw .mismatched
  | _, .scalar text style tag, left => return (← Node.scalarContent text style tag, left)
  | room + 1, .list items tag, left => do
    if Node.isCustom tag then throw .mismatched
    let (items, left) ← contentItems (d.content room) items left
    return (.list items, left)
  | room + 1, .record members tag, left => do
    if Node.isCustom tag then throw .mismatched
    let (members, left) ← contentMembers (d.content room) members left
    return (.record members, left)
  | _, .void, left => return (.null, left)
  | 0, _, _ => throw .mismatched
where
  /-- The documents that some nodes are. -/
  contentItems (read : Node → Nat → Except Fault (Content × Nat)) : List Node → Nat → Except Fault (List Content × Nat)
    | [], left => return ([], left)
    | n :: ns, left => do
      let (c, left) ← read n left
      let (cs, left) ← contentItems read ns left
      return (c :: cs, left)
  /-- The documents that the keys and values of some members are. -/
  contentMembers (read : Node → Nat → Except Fault (Content × Nat)) :
      List (Node × Node) → Nat → Except Fault (List (Content × Content) × Nat)
    | [], left => return ([], left)
    | (k, v) :: ms, left => do
      let (k, left) ← read k left
      let (v, left) ← read v left
      let (ms, left) ← contentMembers read ms left
      return ((k, v) :: ms, left)

end Document

/-! ## Reading -/

namespace Place

/-- Another node, one level down. -/
def below (p : Place) (node : Node) : Place := { p with node, room := p.room - 1 }

/-- The content of a place. -/
def content (p : Place) : Except Fault Content :=
  (p.document.content p.room p.node p.document.maxReferences).map (·.1)

/-- The text of a scalar. -/
def text (p : Place) : Except Fault String := do
  match ← p.document.resolve p.node with
  | .scalar text _ _ => return String.ofList text
  | _ => throw .mismatched

/-- The text of a scalar that may be of a kind. -/
def literal (p : Place) (kind : String) : Except Fault (List Char) := do
  Readable.require ((← p.document.resolve p.node).literal? kind)

/-- The value, unless it is given as missing. -/
def present (p : Place) : Except Fault (Option Place) := do
  let node ← p.document.resolve p.node
  match node with
  | .void => return none
  | .scalar text .plain none => return if text.isEmpty || isNull text then none else some { p with node }
  | .scalar text .plain (some tag) =>
    if tag ≠ coreTag "null" then return some { p with node }
    else if isNull text then return none
    else throw .mismatched
  | _ => return some { p with node }

/-- The items of a list. -/
def list (p : Place) : Except Fault (Row Place) := do
  match ← p.document.resolve p.node with
  | .list items _ => if p.room = 0 then throw .mismatched else return { items := items.map p.below }
  | node => if node.isBlank then return { items := [] } else throw .mismatched

/-- The members of a record, with the keys that `key` gives. -/
def table (p : Place) (key : Place → Except Fault FieldKey) (members : List (Node × Node)) : Table Place :=
  { members := members.map fun m =>
      (match key (p.below m.1) with | .ok k => k | .error f => .fault f, p.below m.2) }

/-- The fields of a record; their names may be any scalars. -/
def record (p : Place) : Except Fault (Shape Place) := do
  match ← p.document.resolve p.node with
  | .record members _ =>
    if p.room = 0 then throw .mismatched
    else return .named (p.table (fun k => k.text.map .name) members)
  | node => if node.isBlank then return .named { members := [] } else throw .mismatched

/-- The fields of a record of some kind; their names are texts. -/
def tagged (p : Place) : Except Fault (Shape Place) := do
  match ← p.document.resolve p.node with
  | .record members tag =>
    if p.room = 0 || Node.isCustom tag then throw .mismatched
    else return .named (p.table (fun k => k.content.map Content.fieldKey) members)
  | .list items tag =>
    if p.room = 0 || Node.isCustom tag then throw .mismatched
    else return .listed { items := items.map p.below }
  | _ => throw .mismatched

end Place

instance : Readable Place where
  text := Place.text
  natural p := do Readable.require (natural? (← p.literal "int")) >>= fun n =>
    if n < UInt64.size then .ok n else .error .mismatched
  flag p := do Readable.require (flag? (← p.literal "bool"))
  present := Place.present
  list := Place.list
  record := Place.record
  tagged := Place.tagged
  skip _ := .ok ()
  content := Place.content

/-- Reads the only document of a text. -/
def readAll {α : Type} (read : Place → Except Fault α) (cs : List Char) : Except Fault α :=
  match (tokens cs).bind Document.ofTokens? with
  | some document => read ⟨document, document.root, maxDepth⟩
  | none => .error .malformed

end Switchyard.Yaml
