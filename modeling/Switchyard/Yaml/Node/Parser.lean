/-
Reading a YAML document from tokens.
-/
import Switchyard.Yaml.Node

namespace Switchyard.Yaml

/-- Tokens to read, and what is known about names. -/
structure Source where
  tokens : List Token
  /-- What handles of tags stand for. -/
  handles : List (List Char × List Char) := [(['!'], ['!']), (['!', '!'], "tag:yaml.org,2002:".toList)]
  anchors : Anchors := {}

/-- Reads something from tokens, or refuses them. -/
abbrev NodeReader := StateT Source Option

namespace NodeReader

/-- The next token. -/
def peek : NodeReader (Option Token) := return (← get).tokens.head?

/-- Passes over a token. -/
def advance : NodeReader Unit := modify fun s => { s with tokens := s.tokens.drop 1 }

/-- Whether the next token is one of some. -/
def sees (ts : List Token) : NodeReader Bool := return (← peek).any (· ∈ ts)

/-! ## Anchors and tags -/

/-- The tag that a handle and a suffix make. -/
def fullTag (handle suffix : List Char) : NodeReader (List Char) := do
  if handle.isEmpty then return suffix
  match (← get).handles.lookup handle with
  | some start => return start ++ suffix
  | none => failure

/-- Reads an anchor. -/
def anchor? : NodeReader (Option (List Char)) := do
  match ← peek with
  | some (.anchor name) => advance; return some name
  | _ => return none

/-- Reads a tag. -/
def tag? : NodeReader (Option (List Char)) := do
  match ← peek with
  | some (.tag handle suffix) => advance; return some (← fullTag handle suffix)
  | _ => return none

/-- Reads an anchor and a tag in either order. -/
def properties : NodeReader (Option (List Char) × Option (List Char)) := do
  match ← anchor? with
  | some a => return (some a, ← tag?)
  | none =>
    match ← tag? with
    | some t => return (← anchor?, some t)
    | none => return (none, none)

/-- Makes an anchor known. -/
def addAnchor (name : Option (List Char)) : NodeReader (Option Nat) := do
  match name with
  | some name =>
    let s ← get
    let (place, anchors) := s.anchors.add name
    set { s with anchors }
    return some place
  | none => return none

/-- Binds the node at the place of an anchor. -/
def bindAnchor (place : Option Nat) (n : Node) : NodeReader Node := do
  match place with
  | some p =>
    modify fun s => { s with anchors := s.anchors.put p n }
    return n
  | none => return n

/-- The node that a name refers to. -/
def reference (name : List Char) : NodeReader Node := do
  match (← get).anchors.id? name with
  | some id => return .reference id
  | none => failure

/-! ## Nodes -/

/-- Reads with `read` unless one of some tokens comes next. -/
def unlessAt (ts : List Token) (read : NodeReader Node) : NodeReader Node := do
  if ← sees ts then return .empty else read

mutual

/-- Reads a node; blocks may be refused, and a list may stand at the indentation of its key. -/
def node (block indentless : Bool) : Nat → NodeReader Node
  | 0 => failure
  | fuel + 1 => do
    match ← peek with
    | some (.reference name) => advance; reference name
    | _ =>
      let (anchor, tag) ← properties
      let place ← addAnchor anchor
      bindAnchor place (← content block indentless (anchor.isSome || tag.isSome) tag fuel)

/-- Reads a node behind its anchor and tag. -/
def content (block indentless named : Bool) (tag : Option (List Char)) : Nat → NodeReader Node
  | 0 => failure
  | fuel + 1 => do
    match ← peek, block with
    | some .blockEntry, _ =>
      if indentless then return .list (← indentlessItems fuel) tag
      else if named then return .scalar [] .plain tag
      else failure
    | some (.scalar text style), _ => advance; return Node.scalarOf text style tag
    | some .flowSequence, _ => advance; return .list (← flowItems true fuel) tag
    | some .flowMapping, _ => advance; return .record (← flowMembers true fuel) tag
    | some .blockSequence, true => advance; return .list (← blockItems fuel) tag
    | some .blockMapping, true => advance; return .record (← blockMembers fuel) tag
    | _, _ => if named then return .scalar [] .plain tag else failure

/-- Reads the items of a block. -/
def blockItems : Nat → NodeReader (List Node)
  | 0 => failure
  | fuel + 1 => do
    match ← peek with
    | some .blockEntry =>
      advance
      let n ← unlessAt [.blockEntry, .blockEnd] (node true false fuel)
      return n :: (← blockItems fuel)
    | some .blockEnd => advance; return []
    | _ => failure

/-- Reads the items of a list that stands at the indentation of its key. -/
def indentlessItems : Nat → NodeReader (List Node)
  | 0 => failure
  | fuel + 1 => do
    match ← peek with
    | some .blockEntry =>
      advance
      let n ← unlessAt [.blockEntry, .key, .value, .blockEnd] (node true false fuel)
      return n :: (← indentlessItems fuel)
    | _ => return []

/-- Reads the members of a block. -/
def blockMembers : Nat → NodeReader (List (Node × Node))
  | 0 => failure
  | fuel + 1 => do
    match ← peek with
    | some .key =>
      advance
      let k ← unlessAt [.key, .value, .blockEnd] (node true true fuel)
      let v ←
        if ← sees [.value] then
          advance
          unlessAt [.key, .value, .blockEnd] (node true true fuel)
        else pure .empty
      return (k, v) :: (← blockMembers fuel)
    | some .blockEnd => advance; return []
    | _ => failure

/-- Reads the items between brackets; an item may be a single member of a record. -/
def flowItems (first : Bool) : Nat → NodeReader (List Node)
  | 0 => failure
  | fuel + 1 => do
    if ← sees [.flowSequenceEnd] then
      advance
      return []
    if !first then
      if ← sees [.flowEntry] then advance else failure
    match ← peek with
    | some .flowSequenceEnd => advance; return []
    | some .key =>
      advance
      let m ← flowPair fuel
      return .record [m] none :: (← flowItems false fuel)
    | _ =>
      let n ← node false false fuel
      return n :: (← flowItems false fuel)

/-- Reads a member that is an item.  Where its key is left out, the token in its place is passed over. -/
def flowPair : Nat → NodeReader (Node × Node)
  | 0 => failure
  | fuel + 1 => do
    let k ←
      if ← sees [.value, .flowEntry, .flowSequenceEnd] then
        advance
        pure .empty
      else node false false fuel
    let v ←
      if ← sees [.value] then
        advance
        unlessAt [.flowEntry, .flowSequenceEnd] (node false false fuel)
      else pure .empty
    return (k, v)

/-- Reads the members between braces. -/
def flowMembers (first : Bool) : Nat → NodeReader (List (Node × Node))
  | 0 => failure
  | fuel + 1 => do
    if ← sees [.flowMappingEnd] then
      advance
      return []
    if !first then
      if ← sees [.flowEntry] then advance else failure
    match ← peek with
    | some .flowMappingEnd => advance; return []
    | some .key =>
      advance
      let k ← unlessAt [.value, .flowEntry, .flowMappingEnd] (node false false fuel)
      let v ←
        if ← sees [.value] then
          advance
          unlessAt [.flowEntry, .flowMappingEnd] (node false false fuel)
        else pure .empty
      return (k, v) :: (← flowMembers false fuel)
    | _ =>
      let k ← node false false fuel
      return (k, .empty) :: (← flowMembers false fuel)

end

/-! ## Documents -/

/-- Reads directives: the version once, which must be known, and each handle once. -/
def directives : Nat → Bool → List (List Char × List Char) → NodeReader Unit
  | 0, _, _ => failure
  | fuel + 1, versioned, handles => do
    match ← peek with
    | some (.version major minor) =>
      if versioned || major ≠ 1 || (minor ≠ 1 && minor ≠ 2) then failure
      advance
      directives fuel true handles
    | some (.tagHandle handle start) =>
      if handles.any (·.1 = handle) then failure
      advance
      directives fuel versioned ((handle, start) :: handles)
    | _ => modify fun s => { s with handles := handles ++ s.handles }

/-- Reads the only document; nothing but the mark of its end may follow. -/
def document : NodeReader Document := do
  let fuel := 3 * (← get).tokens.length + 3
  let root ←
    match ← peek with
    | none => pure .void
    | some (.version ..) | some (.tagHandle ..) | some .documentStart =>
      directives fuel false []
      if !(← sees [.documentStart]) then failure
      advance
      match ← peek with
      | none | some (.version ..) | some (.tagHandle ..) | some .documentStart | some .documentEnd => pure .empty
      | _ => node true false fuel
    | _ => node true false fuel
  let s ← get
  if s.tokens.all (· = .documentEnd) then return { root, anchors := s.anchors } else failure

end NodeReader

/-- The document that tokens make. -/
def Document.ofTokens? (ts : List Token) : Option Document :=
  (NodeReader.document.run { tokens := ts }).map (·.1)

end Switchyard.Yaml
