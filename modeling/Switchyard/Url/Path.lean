/-
What follows the host of a URL: path, query and fragment.

A path is read as segments.  `.` and `..` segments are resolved while reading, and characters that
may not stand in a path are escaped.
-/
import Switchyard.Url.Basic

namespace Switchyard.Url

/-! ## Escaped characters -/

/-- Characters escaped in a fragment. -/
def escapedInFragment (c : Char) : Bool := isControlOrWide c || c ∈ [' ', '"', '<', '>', '\x60']

/-- Characters escaped in a path. -/
def escapedInPath (c : Char) : Bool := escapedInFragment c || c ∈ ['#', '?', '\x7b', '\x7d']

/-- Characters escaped in the user part. -/
def escapedInUser (c : Char) : Bool :=
  escapedInPath c || c ∈ ['/', ':', ';', '=', '@', '[', '\\', ']', '^', '|']

/-- Characters escaped in a query. -/
def escapedInQuery (special : Bool) (c : Char) : Bool :=
  isControlOrWide c || c ∈ [' ', '"', '#', '<', '>'] || (special && c == '\x27')

/-! ## Segments -/

/-- A segment and whether a slash follows it. -/
abbrev Segment := List Char × Bool

/-- The segments of a path and the rest of the URL. -/
def segments (special : Bool) : List Char → List Segment × List Char
  | [] => ([([], false)], [])
  | c :: cs =>
    if c = '?' ∨ c = '#' then ([([], false)], c :: cs)
    else if c = '/' ∨ (special ∧ c = '\\') then
      let (rest, after) := segments special cs
      (([], true) :: rest, after)
    else
      match segments special cs with
      | ((s, slash) :: rest, after) => ((c :: s, slash) :: rest, after)
      | ([], after) => ([([c], false)], after)

/-- A letter and `:` or `|`, as a disk is named. -/
def isDriveLetter : List Char → Bool
  | [a, b] => a.isAlpha && (b == ':' || b == '|')
  | _ => false

/-- `.` or its escape. -/
def isSingleDot (s : List Char) : Bool := s.map Char.toLower ∈ ["." , "%2e"].map String.toList

/-- `..` with any of the dots escaped. -/
def isDoubleDot (s : List Char) : Bool :=
  s.map Char.toLower ∈ ["..", "%2e.", ".%2e", "%2e%2e"].map String.toList

/-- The path without its last segment; the drive letter of a file stays. -/
def shorten (file : Bool) (path : List (List Char)) : List (List Char) :=
  match path with
  | [d] => if file ∧ isDriveLetter d then path else []
  | _ => path.dropLast

/-- Resolves segments one after another.  The second result says whether a drive letter came
first in the path of a file, which then has no host. -/
def resolve (file : Bool) : List Segment → List (List Char) → Bool → List (List Char) × Bool
  | [], path, drive => (path, drive)
  | (raw, slash) :: rest, path, drive =>
    let s := Text.Percent.encode escapedInPath raw
    if isDoubleDot s then
      let path := shorten file path
      resolve file rest (if slash then path else path ++ [[]]) drive
    else if isSingleDot s then
      resolve file rest (if slash then path else path ++ [[]]) drive
    else if file ∧ path.isEmpty ∧ isDriveLetter s then
      resolve file rest (path ++ [s.take 1 ++ [':']]) true
    else resolve file rest (path ++ [s]) drive

/-- Segments with a slash before each. -/
def pathText (path : List (List Char)) : List Char := path.flatMap fun s => '/' :: s

/-- What was read after a host. -/
structure Tail where
  path : List Char
  query : Option (List Char)
  fragment : Option (List Char)
  /-- The path of a file starts with a drive letter. -/
  drive : Bool

/-- A query after `?` and a fragment after `#`. -/
def readQuery (special : Bool) (cs : List Char) : Option (List Char) × Option (List Char) :=
  let (query, rest) :=
    match cs with
    | '?' :: cs =>
      let q := cs.takeWhile (· ≠ '#')
      (some (Text.Percent.encode (escapedInQuery special) q), cs.drop q.length)
    | cs => (none, cs)
  match rest with
  | '#' :: f => (query, some (Text.Percent.encode escapedInFragment f))
  | _ => (query, none)

/-- A path that starts at its first segment, and what follows it. -/
def readSegments (kind : SchemeKind) (cs : List Char) : Tail :=
  let (segs, rest) := segments kind.special cs
  let (path, drive) := resolve (kind = .file) segs [] false
  let (query, fragment) := readQuery kind.special rest
  ⟨pathText path, query, fragment, drive⟩

/-- What follows a host.  Special schemes always have a path. -/
def readTail (kind : SchemeKind) (cs : List Char) : Tail :=
  match cs with
  | '/' :: rest => readSegments kind rest
  | c :: rest =>
    if kind.special then readSegments kind (if c = '\\' then rest else cs)
    else if c = '?' ∨ c = '#' then
      let (query, fragment) := readQuery false cs
      ⟨[], query, fragment, false⟩
    else readSegments kind cs
  | [] => if kind.special then ⟨['/'], none, none, false⟩ else ⟨[], none, none, false⟩

/-- A path without segments, as in `mailto:someone`. -/
def readOpen (cs : List Char) : Tail :=
  let path := cs.takeWhile fun c => c ≠ '?' ∧ c ≠ '#'
  let (query, fragment) := readQuery false (cs.drop path.length)
  ⟨Text.Percent.encode isControlOrWide path, query, fragment, false⟩

end Switchyard.Url
