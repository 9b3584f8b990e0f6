/-
Request targets.

A `Uri` has a scheme and an authority, an authority alone, or a path alone.  The path and the query are
kept as written; a fragment is dropped.  `Uri.parse` and `Uri.build` say why a text is refused.
-/
import Switchyard.Text.Split
import Switchyard.Text.Utf8

namespace Switchyard.Http

/-- Why a text is no request target. -/
inductive UriError where
  | invalidCharacter
  | invalidScheme
  | invalidAuthority
  | invalidFormat
  | schemeTooLong
  | tooLong
  | empty
deriving DecidableEq, Repr

/-- The wording of a reason. -/
def UriError.message : UriError → String
  | .invalidCharacter => "invalid uri character"
  | .invalidScheme => "invalid scheme"
  | .invalidAuthority => "invalid authority"
  | .invalidFormat => "invalid format"
  | .schemeTooLong => "scheme too long"
  | .tooLong => "uri too long"
  | .empty => "empty string"

/-- A request target.  The authority is empty when there is none; `target` is path and query as
written, and may be empty. -/
structure Uri where
  scheme : Option (List Char)
  authority : List Char
  target : List Char
deriving DecidableEq, Repr

namespace Uri

/-! ## Views -/

/-- The path as written: everything before the query. -/
def rawPath (u : Uri) : List Char := u.target.takeWhile (· ≠ '?')

/-- The query, which starts after the first `?`. -/
def query? (u : Uri) : Option (List Char) := (Text.splitOnce '?' u.target).map (·.2)

/-- The path; it is `/` where a scheme stands without one. -/
def path (u : Uri) : List Char :=
  if u.target.isEmpty ∧ u.scheme.isNone then []
  else if u.rawPath.isEmpty then ['/'] else u.rawPath

/-- Path and query, which an authority alone does not have; an empty one is `/`. -/
def pathAndQuery? (u : Uri) : Option (List Char) :=
  if u.scheme.isSome ∨ u.authority.isEmpty then
    some (if u.target.isEmpty then ['/'] else u.target)
  else none

/-- The text of a target. -/
def text (u : Uri) : List Char :=
  (match u.scheme with | some s => s ++ "://".toList | none => []) ++ u.authority ++ u.path
    ++ (match u.query? with | some q => '?' :: q | none => [])

/-! ## Schemes -/

/-- The longest scheme. -/
def maxScheme : Nat := 64

/-- Characters of a scheme. -/
def isSchemeChar (c : Char) : Bool :=
  c.isAlphanum || c == '+' || c == '-' || c == '.' || c == '~'

/-- What stands before `://` at the front of a text, and what follows. -/
def splitScheme (cs : List Char) : Option (List Char × List Char) :=
  let scheme := cs.takeWhile isSchemeChar
  match cs.drop scheme.length with
  | ':' :: '/' :: '/' :: rest => some (scheme, rest)
  | _ => none

/-- A scheme as it is kept: the two of the web are in lower case. -/
def canonicalScheme (s : List Char) : List Char :=
  let lower := s.map Char.toLower
  if lower = "http".toList ∨ lower = "https".toList then lower else s

/-- A scheme on its own. -/
def checkScheme (s : List Char) : Except UriError (List Char) :=
  if s = "http".toList ∨ s = "https".toList then .ok s
  else if maxScheme < (Text.Utf8.encode s).length then .error .schemeTooLong
  else if s.all isSchemeChar then .ok s
  else .error .invalidScheme

/-! ## Authorities -/

/-- Characters that may stand in an authority and what follows it, besides `%`. -/
def isUriChar (c : Char) : Bool :=
  c.isAlphanum || c ∈ ['!', '#', '$', '&', '\x27', '(', ')', '*', '+', ',', '-', '.', '/', ':', ';', '=',
    '?', '@', '[', ']', '_', '~']

/-- What has been seen of an authority. -/
structure AuthorityScan where
  /-- Colons since the last `@` or closing bracket. -/
  colons : Nat := 0
  opened : Bool := false
  closed : Bool := false
  /-- An escape since the last `@` or closing bracket. -/
  percent : Bool := false
  /-- The last character was `@`. -/
  atEnd : Bool := false

/-- Takes note of one character of an authority. -/
def AuthorityScan.step (s : AuthorityScan) (c : Char) : Except UriError AuthorityScan :=
  if c = ':' then
    if 8 ≤ s.colons then .error .invalidAuthority
    else .ok { s with colons := s.colons + 1, atEnd := false }
  else if c = '[' then
    if s.percent ∨ s.opened then .error .invalidAuthority
    else .ok { s with opened := true, atEnd := false }
  else if c = ']' then
    if !s.opened ∨ s.closed then .error .invalidAuthority
    else .ok { s with closed := true, colons := 0, percent := false, atEnd := false }
  else if c = '@' then .ok { s with colons := 0, percent := false, atEnd := true }
  else if c = '%' then .ok { s with percent := true, atEnd := false }
  else if isUriChar c then .ok { s with atEnd := false }
  else .error .invalidCharacter

/-- Whether what was seen makes an authority. -/
def AuthorityScan.finish (s : AuthorityScan) : Except UriError Unit :=
  if s.opened ≠ s.closed ∨ 1 < s.colons ∨ s.atEnd ∨ s.percent then .error .invalidAuthority
  else .ok ()

/-- An authority, perhaps empty, at the front of a text; it ends before `/`, `?` or `#`. -/
def spanAuthority (cs : List Char) : Except UriError (List Char × List Char) := do
  let authority := cs.takeWhile fun c => c ≠ '/' ∧ c ≠ '?' ∧ c ≠ '#'
  let scan ← authority.foldlM AuthorityScan.step {}
  scan.finish
  return (authority, cs.drop authority.length)

/-- An authority that fills a text. -/
def checkAuthority (cs : List Char) : Except UriError (List Char) := do
  if cs.isEmpty then throw .empty
  let (authority, rest) ← spanAuthority cs
  if rest.isEmpty then return authority else throw .invalidCharacter

/-! ## Path and query -/

/-- Characters of a path. -/
def isPathChar (c : Char) : Bool :=
  let n := c.toNat
  n == 0x21 || (0x24 ≤ n && n ≤ 0x3B) || n == 0x3D || (0x40 ≤ n && n ≤ 0x5F) ||
    (0x61 ≤ n && n ≤ 0x7A) || n == 0x7C || n == 0x7E || n == 0x22 || n == 0x7B || n == 0x7D

/-- Characters of a query. -/
def isQueryChar (c : Char) : Bool :=
  let n := c.toNat
  n == 0x21 || (0x24 ≤ n && n ≤ 0x3B) || n == 0x3D || (0x3F ≤ n && n ≤ 0x7E)

/-- The characters of a query up to a fragment. -/
def readQueryChars : List Char → Except UriError (List Char)
  | [] => .ok []
  | c :: cs =>
    if c = '#' then .ok []
    else if isQueryChar c then (readQueryChars cs).map (c :: ·)
    else .error .invalidCharacter

/-- Path and query up to a fragment. -/
def readTarget : List Char → Except UriError (List Char)
  | [] => .ok []
  | c :: cs =>
    if c = '?' then (readQueryChars cs).map ('?' :: ·)
    else if c = '#' then .ok []
    else if isPathChar c then (readTarget cs).map (c :: ·)
    else .error .invalidCharacter

/-! ## Whole targets -/

/-- The most bytes of a target. -/
def maxLength : Nat := 65534

/-- A target that does not start with a slash. -/
def parseFull (cs : List Char) : Except UriError Uri :=
  match splitScheme cs with
  | some (scheme, rest) =>
    if maxScheme < scheme.length then .error .schemeTooLong
    else do
      let (authority, rest) ← spanAuthority rest
      if authority.isEmpty then throw .invalidFormat
      return ⟨some (canonicalScheme scheme), authority, ← readTarget rest⟩
  | none => do
    let (authority, rest) ← spanAuthority cs
    if rest.isEmpty then return ⟨none, authority, []⟩ else throw .invalidFormat

/-- Reads a request target. -/
def parse (cs : List Char) : Except UriError Uri :=
  if maxLength < (Text.Utf8.encode cs).length then .error .tooLong
  else match cs with
    | [] => .error .empty
    | ['*'] => .ok ⟨none, [], ['*']⟩
    | '/' :: _ => (readTarget cs).map fun target => ⟨none, [], target⟩
    | [_] => (checkAuthority cs).map fun authority => ⟨none, authority, []⟩
    | _ => parseFull cs

/-- Puts a target together from its parts; the first part that is refused gives the reason. -/
def build (scheme authority target : List Char) : Except UriError Uri := do
  let scheme ← checkScheme scheme
  let authority ← checkAuthority authority
  return ⟨some scheme, authority, ← readTarget target⟩

end Uri

end Switchyard.Http
