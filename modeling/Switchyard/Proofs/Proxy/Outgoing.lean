/-
What is sent on of a request.

A request that can be sent on goes to the endpoint chosen for it and to no other (`goesTo_of_outgoing`).
It carries all that the client has sent but for the fields that concern a single connection
(`carries_of_outgoing`).  `outgoing_eq_error` says why a request is not sent.
-/
import Switchyard.Proofs.Http.Target
import Switchyard.Proofs.Proxy.Body
import Switchyard.Proxy

namespace Switchyard

/-- The request is for the backend of an endpoint. -/
def Http.Outgoing.GoesTo (out : Http.Outgoing) (e : Endpoint) : Prop :=
  out.uri.scheme = some e.scheme.toList ∧ out.uri.authority = e.authority.toList

/-- What is sent to an endpoint carries all that the client has sent: its method, path and query, all fields
but those of the connection, with their values in order, and the bytes of its body in a row. -/
structure Http.Outgoing.Carries (out : Http.Outgoing) (req : Http.Request) (e : Endpoint) : Prop where
  method_eq : out.method = req.method
  goesTo : out.GoesTo e
  /-- A target without a path, which is an authority alone, gets `/`. -/
  path_eq : out.uri.path = if req.uri.path = [] then ['/'] else req.uri.path
  query_eq : out.uri.query? = req.uri.query?
  headers_eq : out.headers = req.headers.filter fun f => f.1 ∉ "host" :: Proxy.hopByHop
  values_eq : ∀ name, Http.fieldName name ∉ "host" :: Proxy.hopByHop →
    out.headers.values name = req.headers.values name
  values_eq_nil : ∀ name, Http.fieldName name ∈ "host" :: Proxy.hopByHop → out.headers.values name = []
  body_eq : ∃ pieces, req.body = pieces.map .bytes ∧ out.body = Body.join pieces

namespace Proxy

variable {p : Proxy} {e : Endpoint} {req : Http.Request}

/-- A request that is sent on has its target pointed at the endpoint and its whole body read; nothing
but the fields of the connection is taken away from it. -/
theorem outgoing_eq_ok {out : Http.Outgoing} (h : p.outgoing e req = .ok out) :
    ∃ uri body, e.retarget req.uri = .ok uri ∧
      Body.read (forwarded req.headers) req.body p.maxBodyBytes = .complete body ∧
      out = ⟨req.method, uri, forwarded req.headers, body⟩ := by
  rw [outgoing] at h
  split at h
  · cases h
  · rename_i uri huri
    simp only at h
    split at h
    · rename_i body hbody
      exact ⟨uri, body, huri, hbody, (Except.ok.inj h).symm⟩
    · cases h
    · cases h
    · cases h

/-- What cannot be sent is refused for its target or its body. -/
theorem outgoing_eq_error {error : ProxyError} (h : p.outgoing e req = .error (.error error)) :
    (∃ message, error = .invalidRequest message) ∨ error = .payloadTooLarge p.maxBodyBytes := by
  rw [outgoing] at h
  split at h
  · cases h
    exact Or.inl ⟨_, rfl⟩
  · simp only at h
    split at h
    · cases h
    · cases h
      exact Or.inr rfl
    · cases h
      exact Or.inl ⟨_, rfl⟩
    · cases h

theorem goesTo_of_outgoing {out : Http.Outgoing} (h : p.outgoing e req = .ok out) : out.GoesTo e := by
  obtain ⟨uri, body, huri, -, rfl⟩ := outgoing_eq_ok h
  rw [Endpoint.retarget] at huri
  obtain ⟨hscheme, hauthority, -⟩ := Http.Uri.eq_of_build huri
  exact ⟨hscheme, hauthority⟩

theorem carries_of_outgoing {out : Http.Outgoing} (hu : req.uri.IsWellFormed)
    (h : p.outgoing e req = .ok out) : out.Carries req e := by
  have hgoes := goesTo_of_outgoing h
  obtain ⟨uri, body, huri, hbody, rfl⟩ := outgoing_eq_ok h
  obtain ⟨pieces, hpieces, hwhole, -, -⟩ := Body.read_eq_complete hbody
  obtain ⟨hpath, hquery⟩ := Endpoint.retarget_keeps hu huri
  exact {
    method_eq := rfl
    goesTo := hgoes
    path_eq := hpath
    query_eq := hquery
    headers_eq := rfl
    values_eq := fun _ hname => Http.Headers.values_without hname
    values_eq_nil := fun _ hname => Http.Headers.values_without_of_mem hname
    body_eq := ⟨pieces, hpieces, hwhole⟩ }

/-- What cannot be sent fails for a reason of its own. -/
theorem outgoing_ne_noUsableBackends (p : Proxy) (e : Endpoint) (req : Http.Request) :
    p.outgoing e req ≠ .error (.error .noUsableBackends) := by
  intro h
  rcases outgoing_eq_error h with ⟨message, herror⟩ | herror
  · cases herror
  · cases herror

end Proxy

end Switchyard
