/-
JSON documents to be written.

`compact` writes a document on one line, `pretty` with one member or item a line, indented by two
blanks a level.  Members keep their order.
-/
import Switchyard.Ieee.Decimal

namespace Switchyard.Json

/-- A document.  Numbers are natural, or doubles. -/
inductive Value where
  | null
  | flag (b : Bool)
  | natural (n : Nat)
  | double (x : Double)
  | text (s : String)
  | list (items : List Value)
  | record (members : List (String × Value))

namespace Value

/-! ## Scalars -/

/-- Positional from `0.00001` up to sixteen whole digits, else with an exponent that has its sign. -/
def numberStyle : Double.NumberStyle := { least := -5, most := 16, plus := "+" }

/-- The text of a number; there is none for what is not finite. -/
def numberText (x : Double) : List Char :=
  if x.isFinite then x.write numberStyle else "null".toList

/-- A character inside quotes. -/
def escapeChar (c : Char) : List Char :=
  if c = '"' then ['\\', '"']
  else if c = '\\' then ['\\', '\\']
  else if c = '\n' then ['\\', 'n']
  else if c = '\r' then ['\\', 'r']
  else if c = '\t' then ['\\', 't']
  else if c = '\x08' then ['\\', 'b']
  else if c = '\x0c' then ['\\', 'f']
  else if c.toNat < 0x20 then '\\' :: 'u' :: Text.hexPadded 4 c.toNat
  else [c]

/-- A text in quotes. -/
def quoted (s : String) : List Char := '"' :: s.toList.flatMap escapeChar ++ ['"']

/-! ## Layouts -/

/-- How a list or record is laid out: what follows a colon, and the line breaks inside. -/
structure Layout where
  colon : List Char
  /-- What stands before an item at a depth, and before the closing bracket one level up. -/
  line : Nat → List Char

def Layout.compact : Layout := { colon := [':'], line := fun _ => [] }

def Layout.pretty : Layout :=
  { colon := [':', ' '], line := fun depth => '\n' :: List.replicate (2 * depth) ' ' }

/-- Items between brackets; brackets around nothing touch. -/
def enclosed (l : Layout) (opening closing : Char) (depth : Nat) : List (List Char) → List Char
  | [] => [opening, closing]
  | item :: items =>
    opening :: l.line (depth + 1) ++ item
      ++ (items.flatMap fun i => ',' :: l.line (depth + 1) ++ i) ++ l.line depth ++ [closing]

mutual

/-- The text of a document at a depth. -/
def write (l : Layout) (depth : Nat) : Value → List Char
  | null => "null".toList
  | flag true => "true".toList
  | flag false => "false".toList
  | natural n => Text.decimal n
  | double x => numberText x
  | text s => quoted s
  | list items => enclosed l '[' ']' depth (writeItems l (depth + 1) items)
  | record members => enclosed l '\x7b' '\x7d' depth (writeMembers l (depth + 1) members)

/-- The texts of the items of a list. -/
def writeItems (l : Layout) (depth : Nat) : List Value → List (List Char)
  | [] => []
  | v :: vs => write l depth v :: writeItems l depth vs

/-- The texts of the members of a record. -/
def writeMembers (l : Layout) (depth : Nat) : List (String × Value) → List (List Char)
  | [] => []
  | (k, v) :: ms => (quoted k ++ l.colon ++ write l depth v) :: writeMembers l depth ms

end

/-- The text of a document on one line. -/
def compact (v : Value) : String := String.ofList (write .compact 0 v)

/-- The text of a document with a line for each item. -/
def pretty (v : Value) : String := String.ofList (write .pretty 0 v)

/-- A value that may be missing. -/
def ofOption {α : Type} (f : α → Value) : Option α → Value
  | some x => f x
  | none => null

end Value

end Switchyard.Json
