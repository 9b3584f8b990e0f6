/-
Backends a request can be sent to.

An `Endpoint` is named by its scheme and authority; health and history are data for the strategy and
take no part in its identity, which `Endpoint.same` compares.
-/
import Switchyard.Http.Uri
import Switchyard.Ieee.Double
import Switchyard.Url

namespace Switchyard

/-- What is known of a backend's comparison metric. -/
structure History where
  /-- Number of observations behind `value`. -/
  samples : Nat := 0
  /-- Current value of the metric; lower is better. -/
  value : Option Double := none
deriving DecidableEq, Repr

/-- A backend found by a locator. -/
structure Endpoint where
  scheme : String
  authority : String
  healthy : Bool := true
  history : History := {}
deriving DecidableEq, Repr

/-- Why a text names no endpoint. -/
inductive EndpointError where
  | parse (raw : String) (cause : UrlError)
  | missingHost (raw : String)
deriving DecidableEq

/-- The wording of a reason. -/
def EndpointError.message : EndpointError → String
  | .parse raw cause => "invalid endpoint url '" ++ raw ++ "': " ++ cause.message
  | .missingHost raw => "endpoint url '" ++ raw ++ "' has no host"

namespace Endpoint

/-! ## Identity -/

/-- What an endpoint is told apart by. -/
def identity (e : Endpoint) : String × String := (e.scheme, e.authority)

/-- Two endpoints name the same backend. -/
def same (a b : Endpoint) : Bool := a.identity == b.identity

@[simp] theorem same_iff {a b : Endpoint} : a.same b = true ↔ a.identity = b.identity := by
  simp [same]

/-- The same backend, order included. -/
def sameAll (xs ys : List Endpoint) : Bool := xs.map identity == ys.map identity

@[simp] theorem sameAll_iff {xs ys : List Endpoint} :
    sameAll xs ys = true ↔ xs.map identity = ys.map identity := by
  simp [sameAll]

/-- The list holds the backend of an endpoint. -/
def holds (xs : List Endpoint) (e : Endpoint) : Bool := xs.any (·.same e)

/-- The text that names a backend in logs and metrics. -/
def backend (e : Endpoint) : String := e.scheme ++ "://" ++ e.authority

/-- The names of some backends with commas between them. -/
def describe (xs : List Endpoint) : String := ", ".intercalate (xs.map backend)

/-! ## Reading -/

/-- The endpoint a URL names, unless it has no host. -/
def ofUrl? (u : Url) : Option Endpoint :=
  u.authority?.map fun authority =>
    { scheme := String.ofList u.scheme, authority := String.ofList authority }

/-- Reads an endpoint from a URL text, given how domains become ASCII. -/
def parseWith (toAscii : List Char → Option (List Char)) (raw : String) :
    Except EndpointError Endpoint :=
  match Url.parseWith toAscii raw.toList with
  | .error cause => .error (.parse raw cause)
  | .ok u =>
    match ofUrl? u with
    | some e => .ok e
    | none => .error (.missingHost raw)

/-- Reads an endpoint from a URL text. -/
def parse (raw : String) : Except EndpointError Endpoint := parseWith Idna.toAscii raw

/-! ## Targets -/

/-- Points a request target at an endpoint and keeps its path and query. -/
def retarget (e : Endpoint) (u : Http.Uri) : Except Http.UriError Http.Uri :=
  Http.Uri.build e.scheme.toList e.authority.toList (u.pathAndQuery?.getD ['/'])

end Endpoint

end Switchyard
