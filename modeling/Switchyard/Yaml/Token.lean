/-
The tokens of a YAML text.

Indentation is part of the tokens: `blockSequence`, `blockMapping` and `blockEnd` say where blocks start
and end.
-/
namespace Switchyard.Yaml

/-- How a scalar is written. -/
inductive Style where
  | plain
  | singleQuoted
  | doubleQuoted
  | literal
  | folded
deriving DecidableEq, Repr

inductive Token where
  /-- The version that a text claims to be written in. -/
  | version (major minor : Nat)
  /-- A short form for the start of tags. -/
  | tagHandle (handle start : List Char)
  | documentStart
  | documentEnd
  | blockSequence
  | blockMapping
  | blockEnd
  | flowSequence
  | flowSequenceEnd
  | flowMapping
  | flowMappingEnd
  /-- The dash before an item. -/
  | blockEntry
  /-- The comma between items. -/
  | flowEntry
  /-- What follows is a key. -/
  | key
  /-- What follows is the value of a key. -/
  | value
  | anchor (name : List Char)
  /-- The node with an anchor. -/
  | reference (name : List Char)
  | tag (handle suffix : List Char)
  | scalar (text : List Char) (style : Style)
deriving DecidableEq, Repr

end Switchyard.Yaml
