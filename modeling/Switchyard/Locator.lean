/-
Sources of candidate backends.
-/
import Switchyard.Json.Tree
import Switchyard.Locator.Probe
import Switchyard.Selection

namespace Switchyard

/-- A source of candidates. -/
inductive Locator where
  /-- The same answer every time. -/
  | fixed (name : String) (answer : Except LocatorError (List Endpoint))
  /-- Backends that are asked for their health. -/
  | probe (p : Probe)
  /-- A service that answers with a list of endpoint URLs. -/
  | http (url : String) (timeout : Duration)

namespace Locator

/-- The name a locator is reported under. -/
def name : Locator → String
  | fixed name _ => name
  | probe _ => "probe"
  | http _ _ => "http"

/-! ## Lists of endpoints -/

/-- The endpoints that some URLs name, or the first error among them. -/
def endpointsOf (urls : List String) : Except EndpointError (List Endpoint) := urls.mapM Endpoint.parse

/-- A list of backends that is known beforehand. -/
def static (urls : List String) : Except EndpointError Locator :=
  (endpointsOf urls).map fun es => .fixed "static" (.ok es)

/-- The texts that a document lists, if it lists nothing else. -/
def textsOf (body : List UInt8) : Option (List String) :=
  match (Text.Utf8.decode? body).map Json.Tree.read with
  | some (.list items .closed, false) =>
    items.mapM fun
      | .text (.ok s) => some s
      | _ => none
  | _ => none

/-- The name of the status of an answer that reports an error. -/
def reason : Nat → String
  | 400 => "Bad Request"
  | 401 => "Unauthorized"
  | 403 => "Forbidden"
  | 404 => "Not Found"
  | 405 => "Method Not Allowed"
  | 408 => "Request Timeout"
  | 410 => "Gone"
  | 413 => "Payload Too Large"
  | 418 => "I'm a teapot"
  | 429 => "Too Many Requests"
  | 500 => "Internal Server Error"
  | 501 => "Not Implemented"
  | 502 => "Bad Gateway"
  | 503 => "Service Unavailable"
  | 504 => "Gateway Timeout"
  | _ => ""

/-- The URLs that a page lists. -/
def urlsOf (page : Network.Page) : Except FetchError (List String) :=
  if 400 ≤ page.status ∧ page.status < 600 then
    .error (.status page.url page.status (reason page.status))
  else match textsOf page.body with
    | some urls => .ok urls
    | none => .error (.unreadable "unexpected document")

/-- Asks a service for its endpoints. -/
def askService (net : Network) (url : String) (timeout : Duration) :
    Except LocatorError (List Endpoint) × List Event :=
  match (net.fetch url timeout).bind urlsOf with
  | .error e => (.error (.http e), [])
  | .ok urls =>
    let events := [Event.debug ("Discovery at " ++ url ++ " returned " ++ toString urls.length
      ++ " endpoints")]
    match endpointsOf urls with
    | .ok es => (.ok es, events)
    | .error e => (.error (.invalidEndpoint e), events)

/-! ## Discovery -/

/-- What a locator finds; a probe remembers how its targets answered. -/
def discover (net : Network) (l : Locator) : Found × Locator × List Event :=
  match l with
  | fixed name answer => (⟨name, answer⟩, l, [])
  | probe p =>
    let (p, es, events) := p.discover net
    (⟨l.name, .ok es⟩, .probe p, events)
  | http url timeout =>
    let (answer, events) := askService net url timeout
    (⟨l.name, answer⟩, l, events)

/-- What several locators find, in order. -/
def discoverAll (net : Network) : List Locator → List Found × List Locator × List Event
  | [] => ([], [], [])
  | l :: ls =>
    let (f, l, events) := l.discover net
    let (fs, ls, more) := discoverAll net ls
    (f :: fs, l :: ls, events ++ more)

end Locator

end Switchyard
