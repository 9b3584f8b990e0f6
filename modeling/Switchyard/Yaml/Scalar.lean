/-
The texts of YAML scalars.

Quoted and plain scalars run over several lines; `Gap` is what stands between two words of one, and its
`text` says how line breaks fold.  Block scalars keep their lines or fold them.
-/
import Switchyard.Text.Digits
import Switchyard.Yaml.Cursor

namespace Switchyard.Yaml

/-! ## Between words -/

/-- Blanks and line breaks between two words of a scalar, in reverse order. -/
structure Gap where
  blanks : List Char := []
  /-- Whether there is a line break. -/
  broken : Bool := false
  /-- The first line break, unless it was escaped. -/
  first : Option Char := none
  /-- The other line breaks. -/
  more : List Char := []

namespace Gap

/-- The text that a gap stands for, in reverse order: a single line break becomes a space, of several the
first one vanishes, and blanks around line breaks vanish. -/
def text (g : Gap) : List Char :=
  if !g.broken then g.blanks
  else match g.first with
    | some '\n' => if g.more.isEmpty then [' '] else g.more
    | some c => g.more ++ [c]
    | none => g.more

/-- Reads blanks and line breaks; a tab left of a column is refused on a new line. -/
def read (column : Int) : Nat → Cursor → Gap → Option (Gap × Cursor)
  | 0, c, g => some (g, c)
  | fuel + 1, c, g =>
    match c.peek? with
    | none => some (g, c)
    | some x =>
      if isBlank x then
        if !g.broken then read column fuel (c.skip 1) { g with blanks := x :: g.blanks }
        else if x = '\t' && (c.column : Int) < column then none
        else read column fuel (c.skip 1) g
      else if isBreak x then
        let (_, next) := c.newline
        if !g.broken then read column fuel next { broken := true, first := some (breakChar x) }
        else read column fuel next { g with more := breakChar x :: g.more }
      else some (g, c)

end Gap

/-! ## Quoted scalars -/

/-- The character that an escape of one letter stands for. -/
def escaped? (c : Char) : Option Char :=
  match c with
  | '0' => some '\x00'
  | 'a' => some '\x07'
  | 'b' => some '\x08'
  | 't' | '\t' => some '\t'
  | 'n' => some '\n'
  | 'v' => some '\x0B'
  | 'f' => some '\x0C'
  | 'r' => some '\r'
  | 'e' => some '\x1B'
  | ' ' => some ' '
  | '"' => some '"'
  | '/' => some '/'
  | '\\' => some '\\'
  | 'N' => some '\u0085'
  | '_' => some '\u00A0'
  | 'L' => some '\u2028'
  | 'P' => some '\u2029'
  | _ => none

/-- How many digits follow the letter of a numeric escape. -/
def escapeWidth? (c : Char) : Option Nat :=
  match c with
  | 'x' => some 2
  | 'u' => some 4
  | 'U' => some 8
  | _ => none

/-- The character that a backslash and what follows it stand for, and how long the escape is. -/
def escape? : List Char → Option (Char × Nat)
  | '\\' :: c :: rest =>
    match escaped? c, escapeWidth? c with
    | some x, _ => some (x, 2)
    | none, some width =>
      if rest.length < width then none
      else (Text.readNat 16 (rest.take width)).bind fun n =>
        if h : n.isValidChar then some (Char.ofNatAux n h, 2 + width) else none
    | none, none => none
  | _ => none

/-- Reads a word of a quoted scalar after an already read part, and whether an escaped line break ends it. -/
def quotedWord (quote : Char) : Nat → Cursor → List Char → Option (List Char × Cursor × Bool)
  | 0, c, acc => some (acc, c, false)
  | fuel + 1, c, acc =>
    match c.rest with
    | [] => some (acc, c, false)
    | x :: rest =>
      if isBlank x || isBreak x then some (acc, c, false)
      else if x = quote then
        if quote = '\'' && rest.head? = some '\'' then quotedWord quote fuel (c.skip 2) ('\'' :: acc)
        else some (acc, c, false)
      else if quote = '"' && x = '\\' then
        if rest.head?.any isBreak then some (acc, (c.skip 1).newline.2, true)
        else (escape? c.rest).bind fun e => quotedWord quote fuel (c.skip e.2) (e.1 :: acc)
      else quotedWord quote fuel (c.skip 1) (x :: acc)

/-- Reads a quoted scalar behind its opening quote after an already read part. -/
def quotedWords (quote : Char) : Nat → Cursor → List Char → Option (List Char × Cursor)
  | 0, _, _ => none
  | fuel + 1, c, acc =>
    if c.atDocument || c.rest.isEmpty then none
    else (quotedWord quote c.rest.length c acc).bind fun (acc, c, broken) =>
      if c.startsWith quote then some (acc.reverse, c.skip 1)
      else (Gap.read 0 c.rest.length c { broken }).bind fun (g, c) =>
        quotedWords quote fuel c (g.text ++ acc)

/-- Reads a quoted scalar. -/
def quoted (quote : Char) (c : Cursor) : Option (List Char × Cursor) :=
  quotedWords quote (c.rest.length + 1) (c.skip 1) []

/-! ## Plain scalars -/

/-- The characters that end a plain scalar inside brackets. -/
def isBracket (c : Char) : Bool := c = ',' || c = '[' || c = ']' || c = '{' || c = '}'

/-- The length of a word of a plain scalar; a colon before a bracket is refused inside brackets. -/
def plainWord (inFlow : Bool) : List Char → Option Nat
  | [] => some 0
  | x :: rest =>
    if isBlank x || isBreak x then some 0
    else if inFlow && x = ':' && rest.head?.any (fun y => isBracket y || y = '?') then none
    else if x = ':' && startsBlank rest then some 0
    else if inFlow && isBracket x then some 0
    else (plainWord inFlow rest).map (· + 1)

/-- What reading a plain scalar gives. -/
structure Plain where
  text : List Char
  cursor : Cursor
  /-- Whether a line break follows the last word. -/
  broken : Bool

/-- Reads a plain scalar after an already read part and a gap; outside of brackets all its lines reach
beyond the column `indent`. -/
def plainWords (inFlow : Bool) (indent : Int) : Nat → Cursor → Gap → List Char → Option Plain
  | 0, _, _, _ => none
  | fuel + 1, c, g, acc =>
    let done (broken : Bool) (acc : List Char) (c : Cursor) : Option Plain :=
      some ⟨acc.reverse, c, broken⟩
    if c.atDocument || c.startsWith '#' then done g.broken acc c
    else (plainWord inFlow c.rest).bind fun n =>
      let word := c.rest.take n
      let acc := if n = 0 then acc else word.reverse ++ g.text ++ acc
      let g := if n = 0 then g else {}
      let c := c.skip n
      if !c.sees fun x => isBlank x || isBreak x then done g.broken acc c
      else (Gap.read (indent + 1) c.rest.length c g).bind fun (g, c) =>
        if !inFlow && (c.column : Int) < indent + 1 then done g.broken acc c
        else plainWords inFlow indent fuel c g acc

/-- Reads a plain scalar. -/
def plain (inFlow : Bool) (indent : Int) (c : Cursor) : Option Plain :=
  plainWords inFlow indent (c.rest.length + 1) c {} []

/-! ## Block scalars -/

/-- What happens to the line breaks at the end of a block scalar. -/
inductive Chomp where
  | strip
  | clip
  | keep

/-- The two settings of a block scalar; the indentation is found out when it is not given. -/
structure BlockHeader where
  chomp : Chomp := .clip
  increment : Option Nat := none

def chomp? (c : Char) : Option Chomp :=
  if c = '+' then some .keep else if c = '-' then some .strip else none

/-- Reads the settings behind the indicator of a block scalar, in either order. -/
def blockHeader (c : Cursor) : Option (BlockHeader × Cursor) :=
  let digit (c : Cursor) : Option (Option Nat × Cursor) :=
    match c.peek? with
    | some x =>
      if x = '0' then none
      else if x.isDigit then some (some (x.toNat - 48), c.skip 1)
      else some (none, c)
    | none => some (none, c)
  match c.peek?.bind chomp? with
  | some chomp => (digit (c.skip 1)).map fun (increment, c) => ({ chomp, increment }, c)
  | none =>
    (digit c).map fun (increment, c) =>
      match increment, c.peek?.bind chomp? with
      | some n, some chomp => ({ chomp, increment := some n }, c.skip 1)
      | _, _ => ({ increment }, c)

/-- Reads indentation and empty lines: the line breaks in reverse order and the deepest indentation.  No
indentation is given while it is being found out. -/
def emptyLines (indent : Option Nat) : Nat → Cursor → List Char → Nat → Option (List Char × Nat × Cursor)
  | 0, c, breaks, deepest => some (breaks, deepest, c)
  | fuel + 1, c, breaks, deepest =>
    let spaces := (c.run (· = ' ')).length
    let c := c.skip (match indent with | some n => min spaces (n - c.column) | none => spaces)
    let deepest := max deepest c.column
    if c.startsWith '\t' && indent.all (c.column < ·) then none
    else if c.sees isBreak then
      let (b, c) := c.newline
      emptyLines indent fuel c (b ++ breaks) deepest
    else some (breaks, deepest, c)

/-- The end of a block scalar and what was read of it. -/
structure Block where
  /-- The text in reverse order. -/
  text : List Char := []
  /-- The line break of the last line. -/
  leading : List Char := []
  /-- The line breaks after it. -/
  trailing : List Char := []
  /-- Whether the last line starts with a blank. -/
  blank : Bool := false

/-- Reads the lines of a block scalar. -/
def blockLines (literal : Bool) (indent : Nat) : Nat → Cursor → Block → Option (Block × Cursor)
  | 0, c, b => some (b, c)
  | fuel + 1, c, b =>
    if c.column ≠ indent || c.rest.isEmpty then some (b, c)
    else
      let blank := c.sees isBlank
      let folds := !literal && b.leading = ['\n'] && !b.blank && !blank
      let text :=
        if folds then (if b.trailing.isEmpty then ' ' :: b.text else b.trailing ++ b.text)
        else b.trailing ++ b.leading ++ b.text
      let line := c.run (!isBreak ·)
      let (leading, c) := (c.skip line.length).newline
      (emptyLines (some indent) c.rest.length c [] 0).bind fun (trailing, _, c) =>
        blockLines literal indent fuel c { text := line.reverse ++ text, leading, trailing, blank }

/-- Reads a block scalar inside a block of an indentation, which is negative outside of all blocks. -/
def blockScalar (literal : Bool) (parent : Int) (c : Cursor) : Option (List Char × Cursor) := do
  let (header, c) ← blockHeader (c.skip 1)
  let c ← c.finishLine
  let given := header.increment.map fun n => (max parent 0).toNat + n
  let (trailing, deepest, c) ← emptyLines given (c.rest.length + 1) c [] 0
  let indent := given.getD (max deepest (max (parent + 1).toNat 1))
  let (b, c) ← blockLines literal indent (c.rest.length + 1) c { trailing }
  let text := match header.chomp with
    | .strip => b.text
    | .clip => b.leading ++ b.text
    | .keep => b.trailing ++ b.leading ++ b.text
  return (text.reverse, c)

end Switchyard.Yaml
