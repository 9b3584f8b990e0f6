/-
A place in a YAML text.

A `Cursor` holds the text that is still to be read and where it starts.  The end of the text counts as the
end of a line.
-/
namespace Switchyard.Yaml

/-! ## Characters -/

/-- Whether a character may stand in a YAML text. -/
def isAllowed (c : Char) : Bool :=
  let n := c.toNat
  n = 0x09 || n = 0x0A || n = 0x0D || (0x20 ≤ n && n ≤ 0x7E) || n = 0x85 || (0xA0 ≤ n && n ≤ 0xD7FF) ||
    (0xE000 ≤ n && n ≤ 0xFFFD) || 0x10000 ≤ n

def isBlank (c : Char) : Bool := c = ' ' || c = '\t'

def isBreak (c : Char) : Bool :=
  c = '\n' || c = '\r' || c = '\u0085' || c = '\u2028' || c = '\u2029'

/-- Letters, digits, `_` and `-`. -/
def isWord (c : Char) : Bool := c.isAlphanum || c = '_' || c = '-'

/-- What a line break is read as. -/
def breakChar (c : Char) : Char := if c = '\u2028' || c = '\u2029' then c else '\n'

/-- Whether a text starts with a blank or ends its line here. -/
def startsBlank : List Char → Bool
  | [] => true
  | c :: _ => isBlank c || isBreak c

/-! ## Places -/

/-- The text from a place on, and the place. -/
structure Cursor where
  rest : List Char
  index : Nat := 0
  line : Nat := 0
  column : Nat := 0

namespace Cursor

/-- The next character. -/
def peek? (c : Cursor) : Option Char := c.rest.head?

/-- Whether the next character is the given one. -/
def startsWith (c : Cursor) (x : Char) : Bool := c.rest.head? = some x

/-- Whether the next character passes a test. -/
def sees (c : Cursor) (p : Char → Bool) : Bool := c.rest.head?.any p

/-- Whether a word ends here: at a blank or at the end of the line. -/
def atGap (c : Cursor) : Bool := startsBlank c.rest

/-- Whether the line ends here. -/
def atLineEnd (c : Cursor) : Bool := c.rest.head?.all isBreak

/-- Behind `n` characters of the same line. -/
def skip (c : Cursor) (n : Nat) : Cursor :=
  { c with rest := c.rest.drop n, index := c.index + n, column := c.column + n }

/-- Behind all characters that pass a test; none of them is a line break. -/
def skipWhile (c : Cursor) (p : Char → Bool) : Cursor := c.skip (c.rest.takeWhile p).length

/-- The characters up to the first that fails a test. -/
def run (c : Cursor) (p : Char → Bool) : List Char := c.rest.takeWhile p

/-- Behind a line break, and what it is read as; nothing changes elsewhere. -/
def newline (c : Cursor) : List Char × Cursor :=
  let next (rest : List Char) (n : Nat) : Cursor :=
    { rest, index := c.index + n, line := c.line + 1, column := 0 }
  match c.rest with
  | '\r' :: '\n' :: rest => (['\n'], next rest 2)
  | x :: rest => if isBreak x then ([breakChar x], next rest 1) else ([], c)
  | [] => ([], c)

/-- Whether three equal characters stand alone at the start of a line. -/
def atMarker (c : Cursor) (x : Char) : Bool :=
  c.column = 0 && c.rest.take 3 = [x, x, x] && startsBlank (c.rest.drop 3)

/-- Whether a document starts or ends here. -/
def atDocument (c : Cursor) : Bool := c.atMarker '-' || c.atMarker '.'

/-- Behind blanks and a comment, at the end of the line; nothing when something else follows. -/
def finishLine (c : Cursor) : Option Cursor :=
  let c := c.skipWhile isBlank
  let c := if c.startsWith '#' then c.skipWhile (!isBreak ·) else c
  if c.atLineEnd then some c.newline.2 else none

end Cursor

end Switchyard.Yaml
