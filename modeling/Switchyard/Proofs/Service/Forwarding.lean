/-
What reaches the backends.

A request is sent whenever it can be (`attempts_ne_nil_iff`).  All attempts are made with one and the same
copy of it, which carries all that the client has sent (`carries_request`); the last attempt decides what
the client is told.  A declared length is a field like any other: it is passed on as it came, next to a body
that is what the chunks have brought (`length_forwarded`).
-/
import Mathlib.Data.List.Basic
import Switchyard.Proofs.Proxy.Outgoing
import Switchyard.Proofs.Service.Handled

namespace Switchyard.Service

variable {τ : Type} {s s' : Service τ} {p : Proxy} {req : Http.Request}
  {peer : Option Net.SocketAddr} {made : List Attempt} {result : Except ProxyError Http.Response}

/-- What is sent, if anything is, is made for the backend chosen under the rule in force, and the answer
is that of the last attempt. -/
theorem Handled.sent (h : Handled p req peer s result made s') (hmade : made ≠ []) :
    ∃ rule e out earlier last, s.router.state.rule = some rule ∧
      (s.router.chosen req peer s.now rule).resolution.endpoint = e ∧
      p.outgoing e req = .ok out ∧ (∀ a ∈ made, a.sent = out) ∧ made = earlier ++ [last] ∧
      (∀ a ∈ earlier, ∃ source, a.answer = .error source) ∧
      ((∃ response, last.answer = .ok response ∧ result = .ok response) ∨
        ∃ source, last.answer = .error source ∧
          result = .error (.backendFailed e.backend source)) := by
  cases h with
  | unrouted => exact absurd rfl hmade
  | refused => exact absurd rfl hmade
  | failed hrule hout htried =>
    obtain ⟨earlier, last, hlast, hanswer, hearlier⟩ := htried.exists_last
    exact ⟨_, _, _, earlier, last, hrule, rfl, hout, fun _ => htried.sent_eq, hlast, hearlier,
      Or.inr ⟨_, hanswer, rfl⟩⟩
  | answered hrule hout htried =>
    obtain ⟨earlier, last, hlast, hanswer, hearlier⟩ := htried.exists_last
    exact ⟨_, _, _, earlier, last, hrule, rfl, hout, fun _ => htried.sent_eq, hlast, hearlier,
      Or.inl ⟨_, hanswer, rfl⟩⟩

/-- A request is sent exactly if a rule is in force and the request can be made for the backend chosen
under it. -/
theorem attempts_ne_nil_iff :
    s.attempts p req peer ≠ [] ↔ ∃ rule out, s.router.state.rule = some rule ∧
      p.outgoing (s.router.chosen req peer s.now rule).resolution.endpoint req = .ok out := by
  constructor
  · intro hsent
    obtain ⟨result, s', hhandle⟩ := exists_handle_of_attempts hsent
    obtain ⟨rule, e, out, earlier, last, hrule, rfl, hout, -⟩ := (handled hhandle).sent hsent
    exact ⟨rule, out, hrule, hout⟩
  · rintro ⟨rule, out, hrule, hout⟩
    obtain ⟨r, events, hprepare, -⟩ := p.prepare_of_some req peer s.now hrule
    rw [hout] at hprepare
    obtain ⟨result, s', hhandle⟩ : ∃ result s', s.handle p req peer = (some result, s') :=
      ⟨_, _, handle_of_dispatch (dispatch_of_prepared hprepare rfl)⟩
    have hhandled := handled hhandle
    -- neither of the two ways without an attempt is left
    generalize s.attempts p req peer = made at hhandled ⊢
    cases hhandled with
    | unrouted hnone =>
      rw [hrule] at hnone
      cases hnone
    | refused hrule' hrefused =>
      rw [hrule] at hrule'
      cases hrule'
      rw [hout] at hrefused
      cases hrefused
    | failed _ _ htried => exact htried.ne_nil
    | answered _ _ htried => exact htried.ne_nil

/-- **The backend gets what the client has sent.**  If anything is sent for a request, every attempt is
made with one and the same copy of it, which carries all of it to the backend chosen under the rule in
force.  All attempts before the last one have failed.  The answer to the last one is passed on as it is,
and its failure is blamed on the backend. -/
theorem carries_request (hu : req.uri.IsWellFormed) (hsent : s.attempts p req peer ≠ []) :
    ∃ rule e out earlier last result, s.router.state.rule = some rule ∧
      (s.router.chosen req peer s.now rule).resolution.endpoint = e ∧
      out.Carries req e ∧ (∀ a ∈ s.attempts p req peer, a.sent = out) ∧
      s.attempts p req peer = earlier ++ [last] ∧
      (∀ a ∈ earlier, ∃ source, a.answer = .error source) ∧
      (s.handle p req peer).1 = some result ∧
      ((∃ response, last.answer = .ok response ∧ result = .ok response) ∨
        ∃ source, last.answer = .error source ∧
          result = .error (.backendFailed e.backend source)) := by
  obtain ⟨result, s', hhandle⟩ := exists_handle_of_attempts hsent
  obtain ⟨rule, e, out, earlier, last, hrule, he, hout, hsame, hlast, hearlier, hresult⟩ :=
    (handled hhandle).sent hsent
  exact ⟨rule, e, out, earlier, last, result, hrule, he, Proxy.carries_of_outgoing hu hout, hsame, hlast,
    hearlier, congrArg Prod.fst hhandle, hresult⟩

/-- A request with a field of its connection and one that is repeated, and with its body in two chunks. -/
def chunked : Http.Request :=
  { method := "PUT"
    uri := ⟨none, [], "/things?id=7".toList⟩
    headers := [("host", "example.com"), ("accept", "text/plain"), ("te", "trailers"), ("accept", "*/*")]
    body := [.bytes "ab".toUTF8, .bytes "c".toUTF8] }

/-- The first attempt fails, and the second one is answered with an error of the backend's own. -/
theorem carries_request_twice :
    ∃ e out first last, (scripted [] [.error (.network "reset"), .ok { status := 503 }]).attempts {}
        chunked none = [first, last] ∧ first.sent = out ∧ last.sent = out ∧ out.Carries chunked e ∧
      out.uri.path = "/things".toList ∧ out.headers.values "accept" = ["text/plain", "*/*"] := by
  have hu : chunked.uri.IsWellFormed := ⟨by decide +kernel, fun _ hauthority => absurd rfl hauthority⟩
  have htwo : ((scripted [] [.error (.network "reset"), .ok { status := 503 }]).attempts {}
      chunked none).length = 2 := by decide +kernel
  obtain ⟨first, second, hpair⟩ := List.length_eq_two.1 htwo
  have hsent : (scripted [] [.error (.network "reset"), .ok { status := 503 }]).attempts {}
      chunked none ≠ [] := by simp [hpair]
  obtain ⟨rule, e, out, earlier, last, result, -, -, hcarries, hsame, -⟩ := carries_request hu hsent
  rw [hpair] at hsame
  refine ⟨e, out, first, second, hpair, hsame first (by simp), hsame second (by simp), hcarries, ?_, ?_⟩
  · rw [hcarries.path_eq]
    decide +kernel
  · rw [hcarries.values_eq "accept" (by decide +kernel)]
    decide +kernel

/-- A request for a tunnel, the target of which is an authority alone. -/
def tunnel : Http.Request :=
  { method := "CONNECT", uri := ⟨none, "example.com:443".toList, []⟩, headers := [], body := [] }

/-- Not every request keeps its path: one that has none gets `/`. -/
theorem path_may_differ :
    ¬ ∀ (s : Service (List (Except TransportError Http.Response))) (p : Proxy) (req : Http.Request)
      (peer : Option Net.SocketAddr), req.uri.IsWellFormed →
      ∀ a ∈ s.attempts p req peer, a.sent.uri.path = req.uri.path := by
  intro hall
  have hu : tunnel.uri.IsWellFormed := ⟨List.not_mem_nil, fun _ _ => rfl⟩
  have hpaths : ((scripted [] [.ok { status := 200 }]).attempts {} tunnel none).map
      (·.sent.uri.path) = [['/']] := by decide +kernel
  have hnone : ∀ path ∈ ((scripted [] [.ok { status := 200 }]).attempts {} tunnel none).map
      (·.sent.uri.path), path = [] := by
    intro path hpath
    obtain ⟨a, ha, rfl⟩ := List.mem_map.1 hpath
    exact hall _ _ _ _ hu a ha
  rw [hpaths] at hnone
  cases hnone ['/'] (List.mem_singleton_self _)

/-! ## Declared lengths -/

/-- **A declared length is passed on as it came.**  Every attempt declares the lengths that the client has
declared, and its body is the bytes of the chunks in a row, no more than the limit.  So its lengths are
those of its body exactly if the client has declared the number of bytes that its chunks bring. -/
theorem length_forwarded {a : Attempt} (ha : a ∈ s.attempts p req peer) :
    a.sent.headers.values "content-length" = req.headers.values "content-length" ∧
    (∃ pieces, req.body = pieces.map .bytes ∧ a.sent.body = Body.join pieces) ∧
    a.sent.body.size = Body.brought req.body ∧ a.sent.body.size ≤ p.maxBodyBytes ∧
    (Body.AllDeclare a.sent.headers a.sent.body.size ↔
      Body.AllDeclare req.headers (Body.brought req.body)) := by
  have hsent := List.ne_nil_of_mem ha
  obtain ⟨result, s', hhandle⟩ := exists_handle_of_attempts hsent
  obtain ⟨rule, e, out, earlier, last, -, -, hout, hsame, -⟩ := (handled hhandle).sent hsent
  obtain ⟨uri, body, -, hbody, rfl⟩ := Proxy.outgoing_eq_ok hout
  obtain ⟨pieces, hpieces, hwhole, hlimit, -⟩ := Body.read_eq_complete hbody
  have hvalues : (Proxy.forwarded req.headers).values "content-length" =
      req.headers.values "content-length" := Http.Headers.values_without (by decide +kernel)
  have hsize : body.size = Body.brought req.body := by rw [hwhole, Body.size_join, hpieces]
  rw [hsame a ha]
  refine ⟨hvalues, ⟨pieces, hpieces, hwhole⟩, hsize, hlimit, ?_⟩
  rw [Body.AllDeclare, Body.AllDeclare, hvalues, hsize]

/-- A request that brings three bytes in two chunks, and declares so. -/
def measured : Http.Request :=
  { method := "POST"
    uri := ⟨none, [], "/upload".toList⟩
    headers := [("content-length", "3")]
    body := [.bytes "ab".toUTF8, .bytes "c".toUTF8] }

/-- What has been declared rightly is rightly declared to the backend. -/
theorem length_forwarded_measured :
    ∃ a ∈ (scripted [] [.ok { status := 200 }]).attempts {} measured none,
      a.sent.headers.values "content-length" = ["3"] ∧
        Body.AllDeclare a.sent.headers a.sent.body.size := by
  have hsent : ((scripted [] [.ok { status := 200 }]).attempts {} measured none).length = 1 := by
    decide +kernel
  obtain ⟨a, hone⟩ := List.length_eq_one_iff.1 hsent
  have ha : a ∈ (scripted [] [.ok { status := 200 }]).attempts {} measured none := by simp [hone]
  obtain ⟨hvalues, -, -, -, hagrees⟩ := length_forwarded ha
  have hmeasured : measured.headers.values "content-length" = ["3"] := by decide +kernel
  refine ⟨a, ha, hvalues.trans hmeasured, hagrees.2 ?_⟩
  intro v hv n hn
  rw [hmeasured, List.mem_singleton] at hv
  have hthree : Body.readLength "3".toList = some (Body.brought measured.body) := by decide +kernel
  rw [hv, hthree] at hn
  exact (Option.some.inj hn).symm

/-- A request that declares five bytes and brings three. -/
def overstated : Http.Request :=
  { method := "POST"
    uri := ⟨none, [], "/upload".toList⟩
    headers := [("content-length", "5"), ("transfer-encoding", "chunked")]
    body := [.bytes "abc".toUTF8] }

/-- Not every length that is passed on is that of the body. -/
theorem declared_length_may_differ :
    ¬ ∀ (s : Service (List (Except TransportError Http.Response))) (p : Proxy) (req : Http.Request)
      (peer : Option Net.SocketAddr), ∀ a ∈ s.attempts p req peer,
      Body.AllDeclare a.sent.headers a.sent.body.size := by
  intro hall
  have hsent : ((scripted [] [.ok { status := 200 }]).attempts {} overstated none).map
      (fun a => (a.sent.headers.values "content-length", a.sent.body.size)) = [(["5"], 3)] := by
    decide +kernel
  have hlengths : ∀ sent ∈ ((scripted [] [.ok { status := 200 }]).attempts {} overstated none).map
      (fun a => (a.sent.headers.values "content-length", a.sent.body.size)),
      ∀ v ∈ sent.1, ∀ n, Body.readLength v.toList = some n → n = sent.2 := by
    intro sent hsent
    obtain ⟨a, ha, rfl⟩ := List.mem_map.1 hsent
    exact hall _ _ _ _ a ha
  rw [hsent] at hlengths
  have hfive : 5 = 3 := hlengths _ (List.mem_singleton_self _) "5" (List.mem_singleton_self _) 5
    (by decide +kernel)
  cases hfive

end Switchyard.Service
