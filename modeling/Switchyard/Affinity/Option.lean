/-
Where the identity of a client is read from.

An option is written `header:<name>`, `cookie:<name>` or `source-address`.  Its `clientKey` starts with
the option itself, so that values from different places never meet.
-/
import Switchyard.Http.Message
import Switchyard.Net.SocketAddr

namespace Switchyard

/-- A place a client identity is read from. -/
inductive AffinityOption where
  | header (name : String)
  | cookie (name : String)
  | sourceAddress
deriving DecidableEq, Repr

/-- The text is no option. -/
structure AffinityOptionError where
  text : String
deriving DecidableEq, Repr

def AffinityOptionError.message (e : AffinityOptionError) : String :=
  "invalid affinity option '" ++ e.text ++
    "': expected header:<name>, cookie:<name> or source-address"

namespace AffinityOption

/-! ## Text -/

/-- The text an option is written as. -/
def text : AffinityOption → String
  | header name => "header:" ++ name
  | cookie name => "cookie:" ++ name
  | sourceAddress => "source-address"

/-- The option that a kind and the text after its colon make. -/
def ofParts (kind name : List Char) : Option AffinityOption :=
  if kind = "header".toList then
    if Http.isFieldName (String.ofList name) then some (.header (String.ofList name)) else none
  else if kind = "cookie".toList then
    if name.isEmpty then none else some (.cookie (String.ofList name))
  else none

/-- Reads an option. -/
def parse (s : String) : Except AffinityOptionError AffinityOption :=
  let option := match Text.splitOnce ':' s.toList with
    | some (kind, name) => ofParts kind name
    | none => if s = "source-address" then some .sourceAddress else none
  match option with
  | some o => .ok o
  | none => .error ⟨s⟩

/-! ## Identities -/

/-- Blanks around a cookie. -/
def isBlank (c : Char) : Bool := c == ' ' || c == '\t'

/-- The name and value of a cookie, cut at the first `=`. -/
def readCookie (pair : List Char) : Option (List Char × List Char) :=
  Text.splitOnce '=' (Text.trim isBlank pair)

/-- The cookies of some lines, in order. -/
def cookies (lines : List String) : List (List Char × List Char) :=
  (lines.filter Http.isPlainValue).flatMap fun line =>
    (Text.splitAll ';' line.toList).filterMap readCookie

/-- The value of the first cookie of a name. -/
def cookieValue (lines : List String) (name : String) : Option String :=
  ((cookies lines).find? (·.1 = name.toList)).map fun c => String.ofList c.2

/-- The value an option finds, possibly empty. -/
def value? (o : AffinityOption) (headers : Http.Headers) (peer : Option Net.SocketAddr) :
    Option String :=
  match o with
  | header name => headers.plain? name
  | cookie name => cookieValue (headers.values "cookie") name
  | sourceAddress => peer.map fun p => String.ofList p.ip.text

/-- The key of the client that sent a request; an empty value gives none. -/
def clientKey (o : AffinityOption) (headers : Http.Headers) (peer : Option Net.SocketAddr) :
    Option String :=
  match o.value? headers peer with
  | some value => if value.isEmpty then none else some (o.text ++ "=" ++ value)
  | none => none

/-- The key that the first option with one gives. -/
def firstKey (options : List AffinityOption) (headers : Http.Headers) (peer : Option Net.SocketAddr) :
    Option String :=
  options.findSome? fun o => o.clientKey headers peer

end AffinityOption

end Switchyard
