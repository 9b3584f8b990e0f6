/-
Fetching pages.

What the network does is a parameter.  `fetch` decides by itself which texts can be fetched at all, and
asks the network only for those.
-/
import Switchyard.Duration
import Switchyard.Http.Uri
import Switchyard.Locator.Error

namespace Switchyard

/-- What the network makes of a request for a page. -/
inductive Reply where
  /-- An answer with its status, its body and the time it took, in milliseconds. -/
  | answer (status : Nat) (body : List UInt8) (elapsed : Double)
  | failure (cause : String)
  | timeout

/-- The answer to a request for a page, given its URL and how long to wait. -/
structure Network where
  get : String → Duration → Reply

namespace Network

/-- A network that reaches nothing, for the given cause. -/
def down (cause : String) : Network := ⟨fun _ _ => .failure cause⟩

/-- The URL to ask the network for: one of the web that has a host and is a request target. -/
def checkUrl (text : String) : Except FetchError String :=
  match Url.parse text.toList with
  | .error cause => .error (.noUrl cause.message)
  | .ok u =>
    let shown := String.ofList u.text
    if u.host.isNone ∨ (u.scheme ≠ "http".toList ∧ u.scheme ≠ "https".toList) then
      .error (.unusable shown "URL scheme is not allowed")
    else match Http.Uri.parse u.text with
      | .error _ => .error (.unusable shown "Parsed Url is not a valid Uri")
      | .ok _ => .ok shown

/-- An answer: status, body and the time it took. -/
structure Page where
  url : String
  status : Nat
  body : List UInt8
  elapsed : Double

/-- Fetches a page; any status counts as an answer. -/
def fetch (net : Network) (text : String) (timeout : Duration) : Except FetchError Page :=
  match checkUrl text with
  | .error e => .error e
  | .ok url =>
    match net.get url timeout with
    | .answer status body elapsed => .ok ⟨url, status, body, elapsed⟩
    | .failure cause => .error (.failed url cause)
    | .timeout => .error (.timedOut url)

end Network

end Switchyard
