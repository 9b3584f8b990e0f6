/-
Reading URLs.

`parseWith` reads a text as the URL standard prescribes, given how domains become ASCII.  Blanks and
controls at the ends and tabs and line breaks anywhere are dropped first.
-/
import Switchyard.Url.Path

namespace Switchyard.Url

/-! ## Scheme -/

/-- The text without what readers of URLs skip. -/
def cleaned (cs : List Char) : List Char :=
  (Text.trim (fun c => c.toNat ≤ 0x20) cs).filter fun c => c ≠ '\t' ∧ c ≠ '\n' ∧ c ≠ '\r'

/-- The characters of a scheme up to the colon, in lower case, and the rest after it. -/
def readSchemeRest : List Char → Option (List Char × List Char)
  | [] => none
  | ':' :: cs => some ([], cs)
  | c :: cs =>
    if c.isAlphanum ∨ c = '+' ∨ c = '-' ∨ c = '.' then
      (readSchemeRest cs).map fun (s, rest) => (c.toLower :: s, rest)
    else none

/-- A scheme and its colon; it starts with a letter. -/
def readScheme : List Char → Option (List Char × List Char)
  | [] => none
  | c :: cs => if c.isAlpha then readSchemeRest (c :: cs) else none

/-! ## Authority -/

/-- Whether a character ends the part between `//` and the path. -/
def endsAuthority (special : Bool) (c : Char) : Bool :=
  c == '/' || c == '?' || c == '#' || (special && c == '\\')

/-- The text before and after the last `@`. -/
def splitLastAt (cs : List Char) : Option (List Char × List Char) :=
  (Text.splitOnce '@' cs.reverse).map fun (after, before) => (before.reverse, after.reverse)

/-- Name and password in escaped form; an empty password is left out with its colon. -/
def userText (cs : List Char) : List Char :=
  match Text.splitOnce ':' cs with
  | none => Text.Percent.encode escapedInUser cs
  | some (name, password) =>
    Text.Percent.encode escapedInUser name ++
      (if password.isEmpty then [] else ':' :: Text.Percent.encode escapedInUser password)

/-- The user part before the last `@`, and what follows it. -/
def readUser (special : Bool) (cs : List Char) : Except UrlError (List Char × List Char) :=
  let part := cs.takeWhile fun c => !endsAuthority special c
  let rest := cs.drop part.length
  match splitLastAt part with
  | none => .ok ([], cs)
  | some (user, host) =>
    if user.isEmpty ∧ host.isEmpty ∧ !rest.isEmpty then .error .emptyHost
    else .ok (userText user, host ++ rest)

/-- The characters of a host: up to a colon outside brackets or the end of the authority. -/
def spanHost (special : Bool) : List Char → Bool → List Char × List Char
  | [], _ => ([], [])
  | c :: cs, bracketed =>
    if (c = ':' ∧ !bracketed) ∨ endsAuthority special c then ([], c :: cs)
    else
      let (host, rest) := spanHost special cs (if c = '[' then true else if c = ']' then false else bracketed)
      (c :: host, rest)

/-- The digits of a port after its colon; a default port counts as none. -/
def readPortDigits (default : Option UInt16) : List Char → Nat → Bool →
    Except UrlError (Option UInt16 × List Char)
  | [], port, seen => .ok (if seen ∧ some (UInt16.ofNat port) ≠ default then some (UInt16.ofNat port) else none, [])
  | c :: cs, port, seen =>
    if c.isDigit then
      let port := port * 10 + (c.toNat - 48)
      if 65535 < port then .error .invalidPort else readPortDigits default cs port true
    else if endsAuthority true c then
      .ok (if seen ∧ some (UInt16.ofNat port) ≠ default then some (UInt16.ofNat port) else none, c :: cs)
    else .error .invalidPort

/-- A port, if a colon comes first. -/
def readPort (kind : SchemeKind) : List Char → Except UrlError (Option UInt16 × List Char)
  | ':' :: cs =>
    readPortDigits (match kind with | .web port => some port | _ => none) cs 0 false
  | cs => .ok (none, cs)

/-- The host of a scheme, which only a special scheme must have. -/
def hostOf (toAscii : List Char → Option (List Char)) (special : Bool) (cs : List Char) :
    Except UrlError (Option Host) :=
  if cs.isEmpty then if special then .error .emptyHost else .ok none
  else if special then (readHost toAscii cs).map some
  else (readPlainHost cs).map some

/-- What follows `//`: user, host, port, path and the rest. -/
def readAuthority (toAscii : List Char → Option (List Char)) (scheme : List Char) (kind : SchemeKind)
    (cs : List Char) : Except UrlError Url := do
  let (user, cs) ← readUser kind.special cs
  let (hostText, cs) := spanHost kind.special cs false
  let host ← hostOf toAscii kind.special hostText
  if host.isNone && cs.head? == some ':' then throw .emptyHost
  let (port, cs) ← readPort kind cs
  if host.isNone && !user.isEmpty then throw .emptyHost
  let tail := readTail kind cs
  return { scheme, user, host, port, slashes := true, path := tail.path, query := tail.query,
           fragment := tail.fragment }

/-! ## Files -/

/-- A URL of a file with a host, or without one. -/
def fileUrl (host : Option Host) (tail : Tail) : Url :=
  { scheme := "file".toList, user := [], host := if tail.drive then none else host, port := none,
    slashes := true, path := '/' :: tail.path.dropWhile (· = '/'), query := tail.query,
    fragment := tail.fragment }

/-- What follows `file:`.  A drive letter in place of a host starts the path, and `localhost` is
no host. -/
def readFile (toAscii : List Char → Option (List Char)) (cs : List Char) : Except UrlError Url :=
  let isSlash (c : Char) : Bool := c == '/' || c == '\\'
  match cs with
  | a :: b :: rest =>
    if isSlash a && isSlash b then
      let hostText := rest.takeWhile fun c => !(c == '/' || c == '\\' || c == '?' || c == '#')
      let after := rest.drop hostText.length
      if isDriveLetter hostText then .ok (fileUrl none (readSegments .file rest))
      else if hostText.isEmpty then .ok (fileUrl none (readTail .file after))
      else do
        let host ← readHost toAscii hostText
        let host := if host = .name "localhost".toList then none else some host
        return fileUrl host (readTail .file after)
    else .ok (fileUrl none (readTail .file cs))
  | _ => .ok (fileUrl none (readTail .file cs))

/-! ## All together -/

/-- A URL without `//` after its scheme. -/
def readBare (scheme cs : List Char) : Url :=
  let tail := match cs with
    | '/' :: rest => readSegments .other rest
    | _ => readOpen cs
  { scheme, user := [], host := none, port := none, slashes := false, path := tail.path,
    query := tail.query, fragment := tail.fragment }

/-- Reads a URL, given how domains become ASCII. -/
def parseWith (toAscii : List Char → Option (List Char)) (input : List Char) : Except UrlError Url :=
  match readScheme (cleaned input) with
  | none => .error .relativeWithoutBase
  | some (scheme, cs) =>
    match SchemeKind.of scheme with
    | .file => readFile toAscii cs
    | .web port =>
      readAuthority toAscii scheme (.web port) (cs.dropWhile fun c => c = '/' ∨ c = '\\')
    | .other =>
      match cs with
      | '/' :: '/' :: rest => readAuthority toAscii scheme .other rest
      | _ => .ok (readBare scheme cs)

end Switchyard.Url
