/-
Hosts of URLs.

A host of a special scheme is a domain or an address; any other host is kept as written, with
controls and non-ASCII characters escaped.  How a domain becomes ASCII is a parameter, `toAscii`.
-/
import Switchyard.Net.Ipv6
import Switchyard.Text.Percent
import Switchyard.Text.Split
import Switchyard.Url.Error

namespace Switchyard.Url

/-- A host by its kind. -/
inductive Host where
  | name (text : List Char)
  | ipv4 (ip : Net.Ipv4)
  | ipv6 (ip : Net.Ipv6)
deriving DecidableEq

/-- The text form of a host; version 6 addresses stand in brackets and are never dotted. -/
def Host.text : Host → List Char
  | .name text => text
  | .ipv4 ip => ip.text
  | .ipv6 ip => '[' :: ip.text ++ [']']

/-! ## Addresses -/

/-- A part of a version 4 address: octal after `0`, hexadecimal after `0x`.  An outer `none` means
no number. -/
def ipv4Number (cs : List Char) : Option Nat :=
  match cs with
  | [] => none
  | '0' :: 'x' :: ds => if ds.isEmpty then some 0 else Text.readNat 16 ds
  | '0' :: 'X' :: ds => if ds.isEmpty then some 0 else Text.readNat 16 ds
  | '0' :: d :: ds => Text.readNat 8 (d :: ds)
  | ds => Text.readNat 10 ds

/-- Whether a domain is to be read as a version 4 address: its last part is a number. -/
def endsInNumber (cs : List Char) : Bool :=
  let isNumber (part : List Char) : Bool :=
    (!part.isEmpty && part.all Char.isDigit) || (ipv4Number part).isSome
  match (Text.splitAll '.' cs).reverse with
  | [] :: last :: _ => isNumber last
  | [[]] => false
  | last :: _ => isNumber last
  | [] => false

/-- All parts but the last are bytes; the last fills the bytes that remain. -/
def ipv4OfParts : List Nat → Nat → Nat → Option Nat
  | [], _, _ => none
  | [last], room, acc => if last < Nat.pow 256 room then some (acc * Nat.pow 256 room + last) else none
  | part :: parts, room, acc => if part < 256 then ipv4OfParts parts (room - 1) (acc * 256 + part) else none

/-- A version 4 address of one to four numbers; a dot may follow the last. -/
def readIpv4 (cs : List Char) : Option Net.Ipv4 :=
  let parts := Text.splitAll '.' cs
  let parts := if parts.getLast? = some [] then parts.dropLast else parts
  if 4 < parts.length then none
  else (parts.mapM ipv4Number).bind fun numbers => (ipv4OfParts numbers 4 0).map Net.Ipv4.ofNat

/-- An address in brackets. -/
def readBracketed (cs : List Char) : Except UrlError Host :=
  if cs.getLast? = some ']' ∧ 1 < cs.length then
    match Net.Ipv6.ofText? (cs.drop 1).dropLast with
    | some ip => .ok (.ipv6 ip)
    | none => .error .invalidIpv6
  else .error .invalidIpv6

/-! ## Hosts -/

/-- The host of a special scheme. -/
def readHost (toAscii : List Char → Option (List Char)) (cs : List Char) : Except UrlError Host :=
  if cs.head? = some '[' then readBracketed cs
  else match toAscii (Text.Utf8.decodeLossy (Text.Percent.decode cs)) with
    | none => .error .invalidDomain
    | some domain =>
      if domain.isEmpty then .error .emptyHost
      else if endsInNumber domain then
        match readIpv4 domain with
        | some ip => .ok (.ipv4 ip)
        | none => .error .invalidIpv4
      else .ok (.name domain)

/-- Characters that no host may hold. -/
def isForbiddenHostChar (c : Char) : Bool :=
  c ∈ ['\x00', '\t', '\n', '\r', ' ', '#', '/', ':', '<', '>', '?', '@', '[', '\\', ']', '^', '|']

/-- Controls and everything outside ASCII. -/
def isControlOrWide (c : Char) : Bool := c.toNat < 0x20 || 0x7F ≤ c.toNat

/-- The host of a scheme that is not special. -/
def readPlainHost (cs : List Char) : Except UrlError Host :=
  if cs.head? = some '[' then readBracketed cs
  else if cs.any isForbiddenHostChar then .error .invalidHostCharacter
  else .ok (.name (Text.Percent.encode isControlOrWide cs))

end Switchyard.Url
