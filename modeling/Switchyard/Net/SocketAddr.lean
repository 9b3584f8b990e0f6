/-
An address with a port, as peers and listeners have.
-/
import Switchyard.Net.Ipv6

namespace Switchyard.Net

/-- An address of either version. -/
inductive IpAddr where
  | v4 (ip : Ipv4)
  | v6 (ip : Ipv6)
deriving DecidableEq

/-- The text form of an address. -/
def IpAddr.text : IpAddr → List Char
  | .v4 ip => ip.text
  | .v6 ip => ip.mappedText

/-- An address, a port, and for version 6 the number of a link. -/
inductive SocketAddr where
  | v4 (ip : Ipv4) (port : UInt16)
  | v6 (ip : Ipv6) (scope : UInt32) (port : UInt16)
deriving DecidableEq

namespace SocketAddr

/-- The address without port and link. -/
def ip : SocketAddr → IpAddr
  | .v4 ip _ => .v4 ip
  | .v6 ip _ _ => .v6 ip

/-- `address:port`; a version 6 address stands in brackets. -/
def text : SocketAddr → List Char
  | .v4 ip port => ip.text ++ ':' :: Text.decimal port.toNat
  | .v6 ip scope port =>
    let link := if scope = 0 then [] else '%' :: Text.decimal scope.toNat
    '[' :: ip.mappedText ++ link ++ ']' :: ':' :: Text.decimal port.toNat

/-- A port after its colon. -/
def readPort : List Char → Option (UInt16 × List Char)
  | ':' :: cs =>
    (readNumber { base := 10, maxDigits := none, leadingZero := true, bound := UInt16.size } cs).map
      fun (n, rest) => (UInt16.ofNat n, rest)
  | _ => none

/-- The number of a link after `%`; zero when there is none. -/
def readScope : List Char → UInt32 × List Char
  | '%' :: cs =>
    match readNumber { base := 10, maxDigits := none, leadingZero := true, bound := UInt32.size } cs with
    | some (n, rest) => (UInt32.ofNat n, rest)
    | none => (0, '%' :: cs)
  | cs => (0, cs)

/-- The version 4 form, which must fill the text. -/
def readV4 (cs : List Char) : Option SocketAddr :=
  match Ipv4.read cs with
  | some (ip, rest) =>
    match readPort rest with
    | some (port, []) => some (.v4 ip port)
    | _ => none
  | none => none

/-- The version 6 form, which must fill the text. -/
def readV6 : List Char → Option SocketAddr
  | '[' :: cs =>
    match Ipv6.read cs with
    | some (ip, rest) =>
      match readScope rest with
      | (scope, ']' :: rest) =>
        match readPort rest with
        | some (port, []) => some (.v6 ip scope port)
        | _ => none
      | _ => none
    | none => none
  | _ => none

/-- The address and port that a text spells. -/
def ofText? (cs : List Char) : Option SocketAddr := (readV4 cs).orElse fun _ => readV6 cs

end SocketAddr

end Switchyard.Net
