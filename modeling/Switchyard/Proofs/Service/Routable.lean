/-
Requests that are refused for their backend.

A request is answered as invalid if it cannot be sent to the backend that was chosen for it
(`handle_eq_invalidRequest_iff`): no target can be pointed at the backend, or the body cannot be read.  Which of
the two it is does not depend on the target, so that a backend is reached by all requests or by none, as
`Endpoint.routable` says.
-/
import Switchyard.Proofs.Endpoint.Obstacle
import Switchyard.Proofs.Proxy.Limit
import Switchyard.Proofs.Service.Handled
import Switchyard.Setup

namespace Switchyard

namespace Service

variable {τ : Type} {s : Service τ} {p : Proxy} {req : Http.Request} {peer : Option Net.SocketAddr}
  {message : String}

/-- A request is answered as invalid exactly if it cannot be sent to the backend that was chosen for it. -/
theorem handle_eq_invalidRequest_iff :
    (s.handle p req peer).1 = some (.error (.invalidRequest message)) ↔
      ∃ rule, s.router.state.rule = some rule ∧
        p.outgoing (s.router.chosen req peer s.now rule).resolution.endpoint req =
          .error (.error (.invalidRequest message)) := by
  constructor
  · intro h
    have hhandled := handled (Prod.ext h rfl : s.handle p req peer = (some _, (s.handle p req peer).2))
    generalize s.attempts p req peer = made at hhandled
    cases hhandled with
    | refused hrule hout _ => exact ⟨_, hrule, hout⟩
  · rintro ⟨rule, hrule, hout⟩
    obtain ⟨r, events, hprepare, -⟩ := p.prepare_of_some req peer s.now hrule
    rw [hout] at hprepare
    rw [handle_of_dispatch (dispatch_of_refused hprepare)]

end Service

namespace Endpoint

variable {e : Endpoint}

/-- What keeps a request from an endpoint: an obstacle, or else its body. -/
theorem IsRead.outgoing_eq_invalidRequest_iff (hread : e.IsRead) {p : Proxy} {req : Http.Request}
    (hu : req.uri.IsTarget) {message : String} :
    p.outgoing e req = .error (.error (.invalidRequest message)) ↔
      (∃ cause, e.obstacle? = some cause ∧ message = cause.message) ∨
        (e.obstacle? = none ∧
          Proxy.readBody (Proxy.forwarded req.headers) req.body p.maxBodyBytes =
            .error (.error (.invalidRequest message))) := by
  cases hobstacle : e.obstacle? with
  | some cause =>
    rw [Proxy.outgoing, hread.retarget_of_obstacle hobstacle]
    simp [eq_comm]
  | none =>
    rw [Proxy.outgoing_eq_readBody (hread.retarget_of_none hobstacle hu)]
    cases Proxy.readBody (Proxy.forwarded req.headers) req.body p.maxBodyBytes with
    | error refusal => simp [Except.map]
    | ok body => simp [Except.map]

/-- **An endpoint that was read can be routed to unless its text holds an obstacle.**  Without one every target
is pointed at it, and no request is answered as invalid but for its own body.  With one no target is, and every
request for which the endpoint is chosen is answered as invalid. -/
theorem routable (hread : e.IsRead) :
    (∀ u : Http.Uri, u.IsTarget → e.retarget u =
      e.obstacle?.elim (.ok ⟨some e.scheme.toList, e.authority.toList, u.sent⟩) .error) ∧
    ∀ {τ : Type} (s : Service τ) (p : Proxy) (req : Http.Request) (peer : Option Net.SocketAddr) (rule : Rule),
      req.uri.IsTarget → s.router.state.rule = some rule →
      (s.router.chosen req peer s.now rule).resolution.endpoint = e → ∀ message,
      ((s.handle p req peer).1 = some (.error (.invalidRequest message)) ↔
        (∃ cause, e.obstacle? = some cause ∧ message = cause.message) ∨
          (e.obstacle? = none ∧
            Proxy.readBody (Proxy.forwarded req.headers) req.body p.maxBodyBytes =
              .error (.error (.invalidRequest message)))) := by
  refine ⟨fun u hu => ?_, ?_⟩
  · cases hobstacle : e.obstacle? with
    | some cause => exact hread.retarget_of_obstacle hobstacle u
    | none => exact hread.retarget_of_none hobstacle hu
  · intro τ s p req peer rule hu hrule hchosen message
    rw [Service.handle_eq_invalidRequest_iff, ← hread.outgoing_eq_invalidRequest_iff hu, ← hchosen]
    constructor
    · rintro ⟨found, hfound, hout⟩
      cases hrule.symm.trans hfound
      exact hout
    · exact fun hout => ⟨rule, hrule, hout⟩

/-! ## Two backends -/

/-- A version 6 address, which any request can be sent to. -/
def loopback : Endpoint := { scheme := "http", authority := "[::1]:8080" }

/-- A host with an escape, which no request can be sent to. -/
def escaped : Endpoint := { scheme := "h2c", authority := "back%65nd:8080" }

end Endpoint

/-- A configuration with one backend, which takes all requests. -/
def Config.single (raw : String) : Config := { strategy := .roundRobin, locators := [.static [raw]] }

/-- A request without a body. -/
def Http.Request.plain (target : List Char) : Request :=
  { method := "GET", uri := ⟨none, [], target⟩, headers := [], body := [] }

namespace Endpoint

/-- A query without a path is sent to an address; nothing is sent to a host with an escape, and what is answered
is that the authority is invalid. -/
theorem routable_loopback :
    (loopback.IsRead ∧ loopback.obstacle? = none ∧
      loopback.retarget ⟨some "http".toList, "router".toList, "?q=up".toList⟩ =
        .ok ⟨some "http".toList, "[::1]:8080".toList, "?q=up".toList⟩) ∧
    escaped.IsRead ∧ escaped.obstacle? = some .invalidAuthority ∧
    ∃ s, Service.ofConfig (.single "h2c://back%65nd:8080") (.down "unreachable") Service.scriptedTransport [] =
        .ok s ∧
      ∀ message, (s.handle {} (.plain "/ready".toList) none).1 = some (.error (.invalidRequest message)) ↔
        message = "invalid authority" := by
  have hloopback : loopback.IsRead := ⟨"http://[::1]:8080", loopback, rfl, rfl⟩
  have hescaped : escaped.IsRead := ⟨"h2c://back%65nd:8080", escaped, rfl, rfl⟩
  have hnone : loopback.obstacle? = none := by decide +kernel
  have hsome : escaped.obstacle? = some .invalidAuthority := by decide +kernel
  refine ⟨⟨hloopback, hnone, ?_⟩, hescaped, hsome, _, rfl, fun message => ?_⟩
  · have hu : Http.Uri.IsTarget ⟨some "http".toList, "router".toList, "?q=up".toList⟩ :=
      ⟨by decide +kernel, fun hscheme => by cases hscheme⟩
    rw [(routable hloopback).1 _ hu, hnone]
    rfl
  · have hu : (Http.Request.plain "/ready".toList).uri.IsTarget :=
      ⟨by decide +kernel, fun _ => iff_of_false (fun hauthority => hauthority rfl) (List.cons_ne_nil _ _)⟩
    rw [(routable hescaped).2 _ _ _ _ _ hu rfl rfl, hsome]
    simp [Http.UriError.message]

/-- The configuration is accepted, and its only backend is chosen for every request, but to point a target at
it fails, and the client is told that its request is bad. -/
theorem accepted_unroutable :
    (Config.single "h2c://back%65nd:8080").validate = .ok () ∧
    parse "h2c://back%65nd:8080" = .ok escaped ∧
    Http.Uri.parse ['/'] = .ok ⟨none, [], ['/']⟩ ∧
    escaped.retarget ⟨none, [], ['/']⟩ = .error .invalidAuthority ∧
    ∃ s, Service.ofConfig (.single "h2c://back%65nd:8080") (.down "unreachable") Service.scriptedTransport [] =
        .ok s ∧
      (s.serve {} (.plain ['/']) none).1 = some (.plain 400 "Bad request") :=
  ⟨rfl, rfl, rfl, rfl, _, rfl, rfl⟩

end Endpoint

end Switchyard
