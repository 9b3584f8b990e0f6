/-
URLs by their parts, and the text they are written as.
-/
import Switchyard.Url.Host

namespace Switchyard

/-- The parts of a URL.  `user` holds name and password as written before `@`. -/
structure Url where
  scheme : List Char
  user : List Char
  host : Option Url.Host
  port : Option UInt16
  /-- Whether `//` stands before the host. -/
  slashes : Bool
  path : List Char
  query : Option (List Char)
  fragment : Option (List Char)

namespace Url

/-- What a scheme means for the rest of a URL. -/
inductive SchemeKind where
  | file
  | web (defaultPort : UInt16)
  | other
deriving DecidableEq

/-- The kind of a lower-case scheme. -/
def SchemeKind.of (scheme : List Char) : SchemeKind :=
  if scheme = "http".toList ∨ scheme = "ws".toList then .web 80
  else if scheme = "https".toList ∨ scheme = "wss".toList then .web 443
  else if scheme = "ftp".toList then .web 21
  else if scheme = "file".toList then .file
  else .other

/-- Special schemes treat `\` like `/`. -/
def SchemeKind.special : SchemeKind → Bool
  | .other => false
  | _ => true

/-- Host and port, the latter only when it is not the default of the scheme. -/
def authority? (u : Url) : Option (List Char) :=
  u.host.map fun host =>
    match u.port with
    | some port => host.text ++ ':' :: Text.decimal port.toNat
    | none => host.text

/-- The text of a URL. -/
def text (u : Url) : List Char :=
  let authority := u.authority?.getD []
  u.scheme ++ ':' :: (if u.slashes then ['/', '/'] else [])
    ++ (if u.user.isEmpty then [] else u.user ++ ['@']) ++ authority ++ u.path
    ++ (match u.query with | some q => '?' :: q | none => [])
    ++ (match u.fragment with | some f => '#' :: f | none => [])

end Url

end Switchyard
