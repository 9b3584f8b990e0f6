/-
Cutting a YAML text into tokens.

A key is only known as one when its colon is met.  Until then the lexer remembers where a key may have
started, one place for each open bracket; such a place grows stale at the end of its line or after 1024
characters.
-/
import Switchyard.Text.Split
import Switchyard.Yaml.Scalar
import Switchyard.Yaml.Token.Tag

namespace Switchyard.Yaml

/-- Where a key may have started. -/
structure KeyStart where
  /-- Whether nothing but a key may start here. -/
  required : Bool
  /-- The number of tokens before it. -/
  tokens : Nat
  cursor : Cursor

/-- A place where a key may have started, unless it has grown stale; refuses if a key had to start there. -/
def KeyStart.fresh (here : Cursor) : Option KeyStart → Option (Option KeyStart)
  | some k =>
    if k.cursor.line < here.line || k.cursor.index + 1024 < here.index then
      if k.required then none else some none
    else some (some k)
  | none => some none

structure Lexer where
  cursor : Cursor
  tokens : Array Token := #[]
  /-- How many brackets are open. -/
  flow : Nat := 0
  /-- The column of the innermost block; negative outside of blocks. -/
  indent : Int := -1
  /-- The columns of the blocks around it. -/
  outer : List Int := []
  /-- Whether a key may start here. -/
  keyAllowed : Bool := true
  /-- Where keys may have started, the innermost bracket first. -/
  keys : List (Option KeyStart) := [none]

namespace Lexer

/-- Adds a token. -/
def emit (l : Lexer) (t : Token) : Lexer := { l with tokens := l.tokens.push t }

/-- Adds a token and goes on behind it. -/
def emitTo (l : Lexer) (t : Token) (c : Cursor) : Lexer := { l.emit t with cursor := c }

/-! ## Blocks -/

/-- Starts a block at a column, before the tokens from `position` on, unless it is already open or brackets are. -/
def openBlock (l : Lexer) (column : Nat) (t : Token) (position : Nat) : Lexer :=
  if l.flow = 0 ∧ l.indent < column then
    { l with tokens := l.tokens.insertIdxIfInBounds position t, indent := column, outer := l.indent :: l.outer }
  else l

/-- Ends blocks right of a column. -/
def closeTo (column : Int) : Int → List Int → Array Token → Int × List Int × Array Token
  | indent, [], ts => (indent, [], ts)
  | indent, o :: os, ts =>
    if column < indent then closeTo column o os (ts.push .blockEnd) else (indent, o :: os, ts)

/-- Ends blocks right of a column, unless brackets are open. -/
def closeBlocks (l : Lexer) (column : Int) : Lexer :=
  if l.flow = 0 then
    let (indent, outer, tokens) := closeTo column l.indent l.outer l.tokens
    { l with indent, outer, tokens }
  else l

/-! ## Keys -/

/-- Forgets where a key may have started; refuses if one had to. -/
def forgetKey (l : Lexer) : Option Lexer :=
  match l.keys with
  | some k :: keys => if k.required then none else some { l with keys := none :: keys }
  | _ => some l

/-- Remembers that a key may start here. -/
def noteKey (l : Lexer) : Option Lexer :=
  if l.keyAllowed then
    l.forgetKey.map fun l =>
      let k : KeyStart :=
        { required := l.flow = 0 && l.indent = l.cursor.column, tokens := l.tokens.size, cursor := l.cursor }
      { l with keys := some k :: l.keys.drop 1 }
  else some l

/-- Forgets the places that have grown stale. -/
def dropStale (l : Lexer) : Option Lexer :=
  (l.keys.mapM (KeyStart.fresh l.cursor)).map fun keys => { l with keys }

/-! ## Tokens -/

/-- Passes over blanks, comments and line breaks. -/
def passGaps : Nat → Lexer → Lexer
  | 0, l => l
  | fuel + 1, l =>
    let c := if l.cursor.index = 0 && l.cursor.startsWith '\uFEFF' then l.cursor.skip 1 else l.cursor
    let c := c.skipWhile fun x => x = ' ' || (x = '\t' && (l.flow ≠ 0 || !l.keyAllowed))
    let c := if c.startsWith '#' then c.skipWhile (!isBreak ·) else c
    if c.sees isBreak then
      passGaps fuel { l with cursor := c.newline.2, keyAllowed := l.keyAllowed || l.flow = 0 }
    else { l with cursor := c }

/-- Ends all blocks before a token that stands outside of them. -/
def leaveBlocks (l : Lexer) : Option Lexer :=
  (l.closeBlocks (-1)).forgetKey.map fun l => { l with keyAllowed := false }

/-- An opening bracket. -/
def openBracket (l : Lexer) (t : Token) : Option Lexer :=
  l.noteKey.map fun l =>
    { l.emitTo t (l.cursor.skip 1) with flow := l.flow + 1, keys := none :: l.keys, keyAllowed := true }

/-- A closing bracket. -/
def closeBracket (l : Lexer) (t : Token) : Option Lexer :=
  l.forgetKey.map fun l =>
    { l.emitTo t (l.cursor.skip 1) with
      flow := l.flow - 1
      keys := if l.flow = 0 then l.keys else l.keys.drop 1
      keyAllowed := false }

/-- A comma. -/
def comma (l : Lexer) : Option Lexer :=
  l.forgetKey.map fun l => { l.emitTo .flowEntry (l.cursor.skip 1) with keyAllowed := true }

/-- Starts a block of a kind here if none is open; keys must be allowed. -/
def beginBlock (l : Lexer) (t : Token) : Option Lexer :=
  if l.flow ≠ 0 then some l
  else if l.keyAllowed then some (l.openBlock l.cursor.column t l.tokens.size)
  else none

/-- A dash before an item. -/
def dash (l : Lexer) : Option Lexer :=
  (l.beginBlock .blockSequence).bind fun l =>
    l.forgetKey.map fun l => { l.emitTo .blockEntry (l.cursor.skip 1) with keyAllowed := true }

/-- A question mark before a key. -/
def question (l : Lexer) : Option Lexer :=
  (l.beginBlock .blockMapping).bind fun l =>
    l.forgetKey.map fun l => { l.emitTo .key (l.cursor.skip 1) with keyAllowed := l.flow = 0 }

/-- A colon before a value.  If a key may have started, it did. -/
def colon (l : Lexer) : Option Lexer :=
  match l.keys with
  | some k :: keys =>
    let l := { l with tokens := l.tokens.insertIdxIfInBounds k.tokens .key }
    let l := l.openBlock k.cursor.column .blockMapping k.tokens
    some { l.emitTo .value (l.cursor.skip 1) with keys := none :: keys, keyAllowed := false }
  | _ =>
    (l.beginBlock .blockMapping).map fun l =>
      { l.emitTo .value (l.cursor.skip 1) with keyAllowed := l.flow = 0 }

/-- A token that may be the start of a key. -/
def noted (l : Lexer) (read : Cursor → Option (Token × Cursor)) : Option Lexer :=
  l.noteKey.bind fun l =>
    (read l.cursor).map fun (t, c) => { l.emitTo t c with keyAllowed := false }

/-- Reads the name of an anchor. -/
def anchorName (make : List Char → Token) (c : Cursor) : Option (Token × Cursor) :=
  let name := (c.skip 1).run isWord
  let c := c.skip (1 + name.length)
  let ends := c.atGap || c.sees (· ∈ ['?', ':', ',', ']', '}', '%', '@', '\x60'])
  if name.isEmpty || !ends then none else some (make name, c)

/-- Reads a tag; a blank follows it, or a comma inside brackets. -/
def tagToken (inFlow : Bool) (c : Cursor) : Option (Token × Cursor) :=
  (tag c).filter fun (_, c) => c.atGap || (inFlow && c.startsWith ',')

/-- Reads a quoted scalar. -/
def quotedToken (quote : Char) (style : Style) (c : Cursor) : Option (Token × Cursor) :=
  (quoted quote c).map fun (text, c) => (.scalar text style, c)

/-- A block scalar. -/
def block (l : Lexer) (style : Style) : Option Lexer :=
  l.forgetKey.bind fun l =>
    (blockScalar (style = .literal) l.indent l.cursor).map fun (text, c) =>
      { l.emitTo (.scalar text style) c with keyAllowed := true }

/-- A plain scalar.  Behind its last line a key may start. -/
def plainScalar (l : Lexer) : Option Lexer :=
  l.noteKey.bind fun l =>
    (plain (l.flow ≠ 0) l.indent l.cursor).map fun p =>
      { l.emitTo (.scalar p.text .plain) p.cursor with keyAllowed := p.broken }

/-- Whether a plain scalar may start with a character, given what follows. -/
def startsPlain (inFlow : Bool) (x : Char) (rest : List Char) : Bool :=
  x ∉ ['-', '?', ':', ',', '[', ']', '{', '}', '#', '&', '*', '!', '|', '>', '\x27', '"', '%', '@', '\x60', ' ', '\t'] ||
    (x = '-' && !rest.head?.any isBlank) || (!inFlow && (x = '?' || x = ':') && !startsBlank rest)

/-- The next token. -/
def token (l : Lexer) (x : Char) (rest : List Char) : Option Lexer :=
  let c := l.cursor
  let inFlow : Bool := l.flow ≠ 0
  if c.column = 0 && x = '%' then
    l.leaveBlocks.bind fun l => (directive c).map fun (t, c) => l.emitTo t c
  else if c.atMarker '-' then l.leaveBlocks.map (·.emitTo .documentStart (c.skip 3))
  else if c.atMarker '.' then l.leaveBlocks.map (·.emitTo .documentEnd (c.skip 3))
  else if x = '[' then l.openBracket .flowSequence
  else if x = '{' then l.openBracket .flowMapping
  else if x = ']' then l.closeBracket .flowSequenceEnd
  else if x = '}' then l.closeBracket .flowMappingEnd
  else if x = ',' then l.comma
  else if x = '-' && startsBlank rest then l.dash
  else if x = '?' && (inFlow || startsBlank rest) then l.question
  else if x = ':' && (inFlow || startsBlank rest) then l.colon
  else if x = '*' then l.noted (anchorName .reference)
  else if x = '&' then l.noted (anchorName .anchor)
  else if x = '!' then l.noted (tagToken inFlow)
  else if x = '|' && !inFlow then l.block .literal
  else if x = '>' && !inFlow then l.block .folded
  else if x = '\x27' then l.noted (quotedToken x .singleQuoted)
  else if x = '"' then l.noted (quotedToken x .doubleQuoted)
  else if startsPlain inFlow x rest then l.plainScalar
  else none

/-- All tokens from here on. -/
def run : Nat → Lexer → Option (List Token)
  | 0, _ => none
  | fuel + 1, l => do
    let l ← (passGaps (l.cursor.rest.length + 1) l).dropStale
    let l := l.closeBlocks l.cursor.column
    match l.cursor.rest with
    | [] =>
      let l ← (l.closeBlocks (-1)).forgetKey
      return l.tokens.toList
    | x :: rest => run fuel (← l.token x rest)

end Lexer

/-- The tokens of a text; nothing when it breaks the rules. -/
def tokens (cs : List Char) : Option (List Token) :=
  let cs := (Text.after? ['\uFEFF'] cs).getD cs
  if cs.all isAllowed then Lexer.run (cs.length + 1) { cursor := { rest := cs } } else none

end Switchyard.Yaml
