/-
Tags and directives of YAML texts.
-/
import Switchyard.Text.Digits
import Switchyard.Text.Utf8
import Switchyard.Yaml.Cursor
import Switchyard.Yaml.Token

namespace Switchyard.Yaml

/-! ## Pieces of tags -/

/-- The characters of a tag; some brackets only where the tag itself stands in brackets. -/
def isTagChar (verbatim : Bool) (c : Char) : Bool :=
  isWord c || c ∈ [';', '/', '?', ':', '@', '&', '=', '+', '$', '.', '%', '!', '~', '*', '\x27', '(', ')'] ||
    (verbatim && (c = ',' || c = '[' || c = ']'))

/-- How many bytes a character has, by its first byte. -/
def byteCount? (n : Nat) : Option Nat :=
  if n < 0x80 then some 1
  else if n < 0xC0 then none
  else if n < 0xE0 then some 2
  else if n < 0xF0 then some 3
  else if n < 0xF8 then some 4
  else none

/-- The escaped bytes of one character. -/
def escapedBytes : Nat → List Char → Option (List UInt8)
  | 0, _ => some []
  | n + 1, '%' :: a :: b :: rest =>
    (Text.readNat 16 [a, b]).bind fun byte =>
      (escapedBytes n rest).map (UInt8.ofNat byte :: ·)
  | _ + 1, _ => none

/-- The escaped bytes at the start of a text that make a character. -/
def escapedChar? : List Char → Option (List UInt8)
  | '%' :: a :: b :: rest =>
    (Text.readNat 16 [a, b]).bind fun first =>
      (byteCount? first).bind fun n =>
        (escapedBytes (n - 1) rest).bind fun more =>
          if more.all (fun byte => byte.toNat / 64 = 2) then some (UInt8.ofNat first :: more) else none
  | _ => none

/-- Reads characters of a tag after an already read part. -/
def tagChars (verbatim : Bool) : Nat → Cursor → List Char → Option (List Char × Cursor)
  | 0, c, acc => some (acc.reverse, c)
  | fuel + 1, c, acc =>
    match c.peek? with
    | some '%' =>
      (escapedChar? c.rest).bind fun bytes =>
        tagChars verbatim fuel (c.skip (3 * bytes.length)) ((Text.Utf8.decodeLossy bytes).reverse ++ acc)
    | some x => if isTagChar verbatim x then tagChars verbatim fuel (c.skip 1) (x :: acc) else some (acc.reverse, c)
    | none => some (acc.reverse, c)

/-- Reads characters of a tag. -/
def tagText (verbatim : Bool) (c : Cursor) : Option (List Char × Cursor) :=
  tagChars verbatim c.rest.length c []

/-- Reads the handle of a tag: a name between exclamation marks, of which the last may be missing. -/
def tagHandle (c : Cursor) : Option (List Char × Cursor) :=
  if c.startsWith '!' then
    let name := (c.skip 1).run isWord
    let c := c.skip (1 + name.length)
    if c.startsWith '!' then some ('!' :: name ++ ['!'], c.skip 1) else some ('!' :: name, c)
  else none

/-! ## Tags -/

/-- Reads a tag: `!<…>` is the tag itself, `!name!…` starts with a handle, and `!…` with the handle `!`. -/
def tag (c : Cursor) : Option (Token × Cursor) := do
  if c.rest.take 2 = ['!', '<'] then
    let (suffix, c) ← tagText true (c.skip 2)
    if suffix.isEmpty || !c.startsWith '>' then none
    else return (.tag [] suffix, c.skip 1)
  else
    let (handle, c) ← tagHandle c
    if 2 ≤ handle.length && handle.getLast? = some '!' then
      let (suffix, c) ← tagText false c
      if suffix.isEmpty then none else return (.tag handle suffix, c)
    else
      let (more, c) ← tagText false c
      let suffix := handle.drop 1 ++ more
      return (if suffix.isEmpty then .tag [] ['!'] else .tag ['!'] suffix, c)

/-! ## Directives -/

/-- Reads a number of at most nine digits. -/
def versionNumber (c : Cursor) : Option (Nat × Cursor) :=
  let digits := c.run Char.isDigit
  if 9 < digits.length then none
  else (Text.readNat 10 digits).map fun n => (n, c.skip digits.length)

/-- Reads a directive with its line. -/
def directive (c : Cursor) : Option (Token × Cursor) := do
  let name := (c.skip 1).run isWord
  let c := c.skip (1 + name.length)
  if !c.atGap then none
  let c := c.skipWhile isBlank
  if name = "YAML".toList then
    let (major, c) ← versionNumber c
    if !c.startsWith '.' then none
    let (minor, c) ← versionNumber (c.skip 1)
    return (.version major minor, ← c.finishLine)
  else if name = "TAG".toList then
    let (handle, c) ← tagHandle c
    if 1 < handle.length && handle.getLast? ≠ some '!' then none
    if !c.sees isBlank then none
    let (start, c) ← tagText true (c.skipWhile isBlank)
    if start.isEmpty || !c.atGap then none
    return (.tagHandle handle start, ← c.finishLine)
  else none

end Switchyard.Yaml
