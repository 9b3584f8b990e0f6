/-
Forwarding requests.

A request is forwarded in three steps.  `Proxy.prepare` chooses the backend from one snapshot of the
router and makes the request that is sent on; the attempts follow; `Proxy.conclude` counts the outcome
and binds the client if a backend answered.
-/
import Switchyard.Proxy.Body
import Switchyard.Retry
import Switchyard.Router

namespace Switchyard

/-- How requests are forwarded. -/
structure Proxy where
  retry : RetryPolicy := {}
  /-- The most bytes of a request body. -/
  maxBodyBytes : Nat := 10485760

namespace Proxy

/-! ## What is sent on -/

/-- Fields that concern a single connection. -/
def hopByHop : List String :=
  ["connection", "keep-alive", "proxy-authenticate", "proxy-authorization", "te", "trailers",
   "transfer-encoding", "upgrade"]

/-- The fields that are sent on. -/
def forwarded (h : Http.Headers) : Http.Headers := h.without ("host" :: hopByHop)

/-- A request ready to be sent, and what is needed to conclude it. -/
structure Prepared where
  key : Option String
  resolution : Resolution
  outgoing : Http.Outgoing

/-- The name of the backend the request goes to. -/
def Prepared.backend (p : Prepared) : String := p.resolution.endpoint.backend

/-- Why no request is sent. -/
inductive Refusal where
  | error (e : ProxyError)
  /-- More memory was asked for than can be had; the program cannot go on. -/
  | overflow

/-- The request that is sent to an endpoint. -/
def outgoing (p : Proxy) (target : Endpoint) (req : Http.Request) : Except Refusal Http.Outgoing :=
  match target.retarget req.uri with
  | .error e => .error (.error (.invalidRequest e.message))
  | .ok uri =>
    let headers := forwarded req.headers
    match Body.read headers req.body p.maxBodyBytes with
    | .complete body => .ok ⟨req.method, uri, headers, body⟩
    | .tooLarge => .error (.error (.payloadTooLarge p.maxBodyBytes))
    | .broken message => .error (.error (.invalidRequest ("failed to read body: " ++ message)))
    | .overflow => .error .overflow

/-- Chooses a backend and makes the request for it. -/
def prepare (p : Proxy) (r : Router) (req : Http.Request) (peer : Option Net.SocketAddr) (now : Nat) :
    Except Refusal Prepared × Router × List Event :=
  match r.state.rule with
  | none => (.error (.error .noUsableBackends), r, [])
  | some rule =>
    let key := r.affinity.clientKey req.headers peer
    let choice := r.affinity.resolve r.bindings r.cursor now rule key
    let resolution := choice.resolution
    let outcome := resolution.outcome.label
    let r := { r with
      bindings := choice.bindings
      cursor := choice.cursor
      metrics := r.metrics.recordAffinity outcome }
    let events := choice.events ++
      [.debug ("Routing to " ++ resolution.endpoint.backend ++ " (affinity " ++ outcome ++ ")")]
    (((p.outgoing resolution.endpoint req).map fun out => ⟨key, resolution, out⟩), r, events)

/-! ## What comes of it -/

/-- Counts the outcome of the attempts and binds the client if a backend answered. -/
def conclude (r : Router) (q : Prepared) (result : Except TransportError Http.Response) (now : Nat) :
    Except ProxyError Http.Response × Router × List Event :=
  match result with
  | .ok response =>
    let metrics := r.metrics.recordBackend q.backend (!response.isServerError)
    let (bindings, events) := match q.key with
      | some key => Affinity.commit r.bindings now key q.resolution
      | none => (r.bindings, [])
    (.ok response, { r with metrics, bindings }, events)
  | .error source =>
    (.error (.backendFailed q.backend source),
      { r with metrics := r.metrics.recordBackend q.backend false },
      [.warn ("Forwarding to " ++ q.backend ++ " failed: " ++ source.message)])

/-- What the client is answered. -/
def reply : Except ProxyError Http.Response → Http.Response
  | .ok response => response
  | .error e => e.response

/-- The status a request is counted under. -/
def statusOf : Except ProxyError Http.Response → Nat
  | .ok response => response.status
  | .error e => e.status

/-- Counts a request that has been answered. -/
def record (r : Router) (method : String) (result : Except ProxyError Http.Response) : Router :=
  { r with metrics := r.metrics.recordRequest method (statusOf result) }

end Proxy

end Switchyard
