/-
JSON texts as trees that may break off.

`Tree.read` never fails: a tree holds all that a text says up to the point where it stops making sense,
and what is wrong there.  Whoever walks the tree in order therefore meets the first fault of the text
at the point where it lies.  What counts as a fault can depend on whether a value is used or skipped;
a `Cut` holds both.
-/
import Switchyard.Document.Fault
import Switchyard.Text.Digits
import Switchyard.Text.Utf8

namespace Switchyard.Json

/-- A fault, for readers that use the value and for those that skip it. -/
structure Cut where
  used : Fault
  skipped : Fault
deriving DecidableEq, Repr

/-- A fault that is the same for all readers. -/
def Cut.both (f : Fault) : Cut := ⟨f, f⟩

/-- A number as written. -/
structure Numeral where
  negative : Bool
  /-- Digits before the point. -/
  whole : List Char
  /-- Digits after the point. -/
  places : Option (List Char)
  /-- Sign and digits of the exponent. -/
  exponent : Option (Bool × List Char)
deriving DecidableEq, Repr

/-- How a list or record ends. -/
inductive Ending where
  | closed
  /-- Something else stands where a comma or the closing bracket should. -/
  | stray (fault : Fault)
  /-- Something else stands after a comma. -/
  | dangling (fault : Fault)
deriving DecidableEq, Repr

/-- A document.  A text whose escapes make no sense holds the fault instead. -/
inductive Tree where
  | null
  | flag (b : Bool)
  | number (n : Numeral)
  | text (t : Except Fault String)
  | list (items : List Tree) (ending : Ending)
  | record (members : List (Except Fault String × Tree)) (ending : Ending)
  | broken (cut : Cut)

namespace Tree

/-! ## Blanks and words -/

def isBlank (c : Char) : Bool := c == ' ' || c == '\n' || c == '\t' || c == '\r'

def skipBlanks (cs : List Char) : List Char := cs.dropWhile isBlank

/-- The rest after a word whose first letter has been seen, or the fault in it. -/
def readWord : List Char → List Char → Except Fault (List Char)
  | [], cs => .ok cs
  | _ :: _, [] => .error .truncated
  | w :: ws, c :: cs => if w = c then readWord ws cs else .error .malformed

/-! ## Numbers -/

/-- The digits at the front, and the rest. -/
def spanDigits (cs : List Char) : List Char × List Char :=
  let digits := cs.takeWhile Char.isDigit
  (digits, cs.drop digits.length)

/-- The fault of a number that stops: at the end of the text it matters who reads. -/
def numberCut (rest : List Char) : Cut :=
  if rest.isEmpty then ⟨.truncated, .malformed⟩ else .both .malformed

/-- An exponent after its letter. -/
def readExponent (cs : List Char) : Except Cut ((Bool × List Char) × List Char) :=
  let (negative, cs) := match cs with
    | '+' :: cs => (false, cs)
    | '-' :: cs => (true, cs)
    | cs => (false, cs)
  match spanDigits cs with
  | ([], rest) => .error (numberCut rest)
  | (digits, rest) => .ok ((negative, digits), rest)

/-- Places after the point. -/
def readPlaces : List Char → Except Cut (Option (List Char) × List Char)
  | '.' :: cs =>
    match spanDigits cs with
    | ([], rest) => .error (numberCut rest)
    | (digits, rest) => .ok (some digits, rest)
  | cs => .ok (none, cs)

/-- An exponent, if its letter comes first. -/
def readExponent? : List Char → Except Cut (Option (Bool × List Char) × List Char)
  | c :: cs =>
    if c = 'e' ∨ c = 'E' then (readExponent cs).map fun (e, rest) => (some e, rest)
    else .ok (none, c :: cs)
  | [] => .ok (none, [])

/-- A number after its sign. -/
def readNumber (negative : Bool) (cs : List Char) : Except Cut (Numeral × List Char) :=
  match spanDigits cs with
  | ([], rest) => .error (numberCut rest)
  | (whole, rest) =>
    if whole.head? = some '0' ∧ 1 < whole.length then .error (.both .malformed)
    else match readPlaces rest with
      | .error cut => .error cut
      | .ok (places, rest) =>
        match readExponent? rest with
        | .error cut => .error cut
        | .ok (exponent, rest) => .ok (⟨negative, whole, places, exponent⟩, rest)

/-! ## Text -/

/-- The number that four hexadecimal digits spell.  Where fewer than four bytes are left, the text
counts as ended. -/
def readHex4 : List Char → Except Fault (Nat × List Char)
  | a :: b :: c :: d :: rest =>
    match Text.readNat 16 [a, b, c, d] with
    | some n => .ok (n, rest)
    | none => .error .malformed
  | cs =>
    .error (if 4 ≤ (Text.Utf8.encode cs).length then .malformed else .truncated)

/-- A piece of a text: what it means, or the fault of a value that uses it. -/
abbrev Piece := Except Fault Char

/-- What a single escape letter stands for. -/
def escapeMeaning? : Char → Option Char
  | '"' => some '"'
  | '\\' => some '\\'
  | '/' => some '/'
  | 'b' => some '\x08'
  | 'f' => some '\x0c'
  | 'n' => some '\n'
  | 'r' => some '\r'
  | 't' => some '\t'
  | _ => none

/-- A unit that stands for half a character: the first half, then the second. -/
def isHighHalf (n : Nat) : Bool := 0xD800 ≤ n && n < 0xDC00

def isLowHalf (n : Nat) : Bool := 0xDC00 ≤ n && n < 0xE000

/-- The character of two halves. -/
def joinHalves (high low : Nat) : Char :=
  Char.ofNat (0x10000 + (high - 0xD800) * 0x400 + (low - 0xDC00))

/-- The piece after `\u`, when the escape is used.  A first half must be followed by a second. -/
def readUnit (cs : List Char) : Except Fault (Piece × List Char) :=
  match readHex4 cs with
  | .error f => .error f
  | .ok (n, rest) =>
    if isLowHalf n then .ok (.error .malformed, rest)
    else if isHighHalf n then
      match rest with
      | [] => .ok (.error .truncated, rest)
      | '\\' :: [] => .ok (.error .truncated, rest)
      | '\\' :: 'u' :: after =>
        match readHex4 after with
        | .error f => .ok (.error f, rest)
        | .ok (m, after) =>
          if isLowHalf m then .ok (.ok (joinHalves n m), after) else .ok (.error .malformed, rest)
      | _ => .ok (.error .malformed, rest)
    else .ok (.ok (Char.ofNat n), rest)

theorem length_of_readHex4 {cs rest : List Char} {n : Nat} (h : readHex4 cs = .ok (n, rest)) :
    rest.length < cs.length := by
  unfold readHex4 at h
  split at h
  · split at h
    · simp only [Except.ok.injEq, Prod.mk.injEq] at h
      rw [← h.2]
      simp only [List.length_cons]
      omega
    · simp at h
  · simp at h

theorem length_of_readUnit {cs rest : List Char} {p : Piece} (h : readUnit cs = .ok (p, rest)) :
    rest.length < cs.length := by
  unfold readUnit at h
  split at h
  · simp at h
  · rename_i n after hx
    have hlt := length_of_readHex4 hx
    split at h
    · obtain ⟨-, rfl⟩ := by simpa using h
      exact hlt
    · split at h
      · split at h
        · obtain ⟨-, rfl⟩ := by simpa using h
          exact hlt
        · obtain ⟨-, rfl⟩ := by simpa using h
          exact hlt
        · split at h
          · obtain ⟨-, rfl⟩ := by simpa using h
            exact hlt
          · rename_i hy
            have hlt' := length_of_readHex4 hy
            split at h
            · obtain ⟨-, rfl⟩ := by simpa using h
              simp only [List.length_cons] at hlt
              omega
            · obtain ⟨-, rfl⟩ := by simpa using h
              exact hlt
        · obtain ⟨-, rfl⟩ := by simpa using h
          exact hlt
      · obtain ⟨-, rfl⟩ := by simpa using h
        exact hlt

/-- The pieces of a text after its opening quote, and the rest after the closing one.  A fault ends
the text for every reader; it comes after the pieces before it. -/
def readPieces (cs : List Char) : List Piece × Except Fault (List Char) :=
  match cs with
  | [] => ([], .error .truncated)
  | '"' :: cs => ([], .ok cs)
  | '\\' :: [] => ([], .error .truncated)
  | '\\' :: 'u' :: cs =>
    match _h : readUnit cs with
    | .error f => ([], .error f)
    | .ok (piece, rest) =>
      let r := readPieces rest
      (piece :: r.1, r.2)
  | '\\' :: c :: cs =>
    match escapeMeaning? c with
    | some d =>
      let r := readPieces cs
      (.ok d :: r.1, r.2)
    | none => ([], .error .malformed)
  | c :: cs =>
    if c.toNat < 0x20 then ([], .error .malformed)
    else
      let r := readPieces cs
      (.ok c :: r.1, r.2)
termination_by cs.length
decreasing_by
  · have := length_of_readUnit ‹_›
    simp only [List.length_cons]
    omega
  · simp only [List.length_cons]
    omega
  · simp only [List.length_cons]
    omega

/-- The text that pieces make, or the first fault among them. -/
def joinPieces (ps : List Piece) : Except Fault String :=
  (ps.mapM id).map String.ofList

/-- A text after its opening quote; the first fault of the whole text may be that of a piece. -/
def readText (cs : List Char) : Except Cut (Except Fault String × List Char) :=
  let (pieces, rest) := readPieces cs
  let joined := joinPieces pieces
  match rest with
  | .ok rest => .ok (joined, rest)
  | .error f => .error ⟨match joined with | .error e => e | .ok _ => f, f⟩

/-! ## Documents -/

/-- A value and the text after it; no text follows a broken one. -/
abbrev Step := Tree × Option (List Char)

def Step.broken (cut : Cut) : Step := (.broken cut, none)

/-- What follows the value of a word. -/
def ofWord (value : Tree) : Except Fault (List Char) → Step
  | .ok rest => (value, some rest)
  | .error f => .broken (.both f)

def ofNumber : Except Cut (Numeral × List Char) → Step
  | .ok (n, rest) => (.number n, some rest)
  | .error cut => .broken cut

mutual

/-- The value at the front of a text. -/
def readValue : Nat → List Char → Step
  | 0, _ => .broken (.both .malformed)
  | fuel + 1, cs =>
    match skipBlanks cs with
    | [] => .broken (.both .truncated)
    | 'n' :: cs => ofWord .null (readWord "ull".toList cs)
    | 't' :: cs => ofWord (.flag true) (readWord "rue".toList cs)
    | 'f' :: cs => ofWord (.flag false) (readWord "alse".toList cs)
    | '-' :: cs => ofNumber (readNumber true cs)
    | '"' :: cs =>
      match readText cs with
      | .ok (t, rest) => (.text t, some rest)
      | .error cut => .broken cut
    | '[' :: cs =>
      let (items, ending, rest) := readItems fuel true cs
      (.list items ending, rest)
    | '\x7b' :: cs =>
      let (members, ending, rest) := readMembers fuel true cs
      (.record members ending, rest)
    | c :: cs => if c.isDigit then ofNumber (readNumber false (c :: cs)) else .broken (.both .malformed)

/-- The items of a list up to its closing bracket; `first` while none has been read. -/
def readItems : Nat → Bool → List Char → List Tree × Ending × Option (List Char)
  | 0, _, _ => ([], .stray .malformed, none)
  | fuel + 1, first, cs =>
    let item (cs : List Char) : List Tree × Ending × Option (List Char) :=
      match readValue fuel cs with
      | (value, none) => ([value], .closed, none)
      | (value, some rest) =>
        let (items, ending, rest) := readItems fuel false rest
        (value :: items, ending, rest)
    match skipBlanks cs with
    | [] => ([], .stray .truncated, none)
    | ']' :: rest => ([], .closed, some rest)
    | ',' :: rest =>
      if first then ([.broken (.both .malformed)], .closed, none)
      else match skipBlanks rest with
        | [] => ([], .dangling .truncated, none)
        | ']' :: _ => ([], .dangling .malformed, none)
        | rest => item rest
    | rest => if first then item rest else ([], .stray .malformed, none)

/-- The members of a record up to its closing bracket; `first` while none has been read. -/
def readMembers : Nat → Bool → List Char →
    List (Except Fault String × Tree) × Ending × Option (List Char)
  | 0, _, _ => ([], .stray .malformed, none)
  | fuel + 1, first, cs =>
    let member (cs : List Char) : List (Except Fault String × Tree) × Ending × Option (List Char) :=
      match readText cs with
      | .error cut => ([(.error cut.used, .broken ⟨cut.skipped, cut.skipped⟩)], .closed, none)
      | .ok (key, rest) =>
        match skipBlanks rest with
        | [] => ([(key, .broken (.both .truncated))], .closed, none)
        | ':' :: rest =>
          match readValue fuel rest with
          | (value, none) => ([(key, value)], .closed, none)
          | (value, some rest) =>
            let (members, ending, rest) := readMembers fuel false rest
            ((key, value) :: members, ending, rest)
        | _ => ([(key, .broken (.both .malformed))], .closed, none)
    match skipBlanks cs with
    | [] => ([], .stray .truncated, none)
    | '\x7d' :: rest => ([], .closed, some rest)
    | ',' :: rest =>
      if first then ([], .stray .malformed, none)
      else match skipBlanks rest with
        | [] => ([], .dangling .truncated, none)
        | '"' :: rest => member rest
        | _ => ([], .dangling .malformed, none)
    | '"' :: rest => if first then member rest else ([], .stray .malformed, none)
    | _ => ([], .stray .malformed, none)

end

/-- A whole document: its tree, and whether anything but blanks follows it. -/
def read (cs : List Char) : Tree × Bool :=
  match readValue (2 * cs.length + 2) cs with
  | (tree, some rest) => (tree, !(skipBlanks rest).isEmpty)
  | (tree, none) => (tree, false)

end Tree

end Switchyard.Json
