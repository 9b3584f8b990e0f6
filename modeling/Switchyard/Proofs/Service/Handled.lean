/-
What can come of a request.

No rule is in force, or the request cannot be sent on, or all attempts fail, or a backend answers:
`Handled` has a case for each, with what is sent and what is left behind.  Whatever the service is asked
is handled in one of these ways (`handled`).
-/
import Switchyard.Proofs.Service.Attempts

namespace Switchyard

/-! ## Choosing a backend -/

/-- The choice of a backend for a request under a rule. -/
def Router.chosen (r : Router) (req : Http.Request) (peer : Option Net.SocketAddr) (now : Nat)
    (rule : Rule) : Affinity.Choice :=
  r.affinity.resolve r.bindings r.cursor now rule (r.affinity.clientKey req.headers peer)

namespace Proxy

variable (p : Proxy) {r : Router} (req : Http.Request) (peer : Option Net.SocketAddr) (now : Nat)

theorem prepare_of_none (hrule : r.state.rule = none) :
    p.prepare r req peer now = (.error (.error .noUsableBackends), r, []) := by
  rw [prepare, hrule]

/-- Under a rule a backend is chosen and the request is made for it. -/
theorem prepare_of_some {rule : Rule} (hrule : r.state.rule = some rule) :
    ∃ r' events, p.prepare r req peer now =
        ((p.outgoing (r.chosen req peer now rule).resolution.endpoint req).map fun out =>
          ⟨r.affinity.clientKey req.headers peer, (r.chosen req peer now rule).resolution, out⟩,
        r', events) ∧
      r'.bindings = (r.chosen req peer now rule).bindings := by
  rw [prepare, hrule]
  exact ⟨_, _, rfl, rfl⟩

end Proxy

namespace Service

variable {τ : Type} {s s' after : Service τ} {p : Proxy} {req : Http.Request}
  {peer : Option Net.SocketAddr}

/-! ## Forwarding -/

section Dispatch

variable {r : Router} {events : List Event}

/-- A request that is refused is answered at once. -/
theorem dispatch_of_refused {e : ProxyError}
    (hprepare : p.prepare s.router req peer s.now = (.error (.error e), r, events)) :
    s.dispatch p req peer = (some (.error e), { s with router := r }.report events) := by
  rw [dispatch, hprepare]

theorem dispatch_of_overflow
    (hprepare : p.prepare s.router req peer s.now = (.error .overflow, r, events)) :
    s.dispatch p req peer = (none, { s with router := r }.report events) := by
  rw [dispatch, hprepare]

/-- A request that can be sent is tried, and then concluded. -/
theorem dispatch_of_prepared {q : Proxy.Prepared} {outcome : Except TransportError Http.Response}
    (hprepare : p.prepare s.router req peer s.now = (.ok q, r, events))
    (hrun : p.retry.run (surroundings q.outgoing) ({ s with router := r }.report events) =
      (outcome, after)) :
    s.dispatch p req peer =
      (some (Proxy.conclude after.router q outcome after.now).1,
        { after with router := (Proxy.conclude after.router q outcome after.now).2.1 }.report
          (Proxy.conclude after.router q outcome after.now).2.2) := by
  rw [dispatch, hprepare]
  simp only
  rw [hrun]

end Dispatch

/-! ## Handling -/

/-- How a request can be answered, with the attempts that are made and the service that is left. -/
inductive Handled (p : Proxy) (req : Http.Request) (peer : Option Net.SocketAddr) (s : Service τ) :
    Except ProxyError Http.Response → List Attempt → Service τ → Prop
  | unrouted {s' : Service τ} (hrule : s.router.state.rule = none)
      (hbindings : s'.router.bindings = s.router.bindings)
      (hcursor : s'.router.cursor = s.router.cursor) :
      Handled p req peer s (.error .noUsableBackends) [] s'
  | refused {s' : Service τ} {rule : Rule} {e : ProxyError} (hrule : s.router.state.rule = some rule)
      (hout : p.outgoing (s.router.chosen req peer s.now rule).resolution.endpoint req =
        .error (.error e))
      (hbindings : s'.router.bindings = (s.router.chosen req peer s.now rule).bindings) :
      Handled p req peer s (.error e) [] s'
  | failed {s' : Service τ} {rule : Rule} {out : Http.Outgoing} {source : TransportError}
      {made : List Attempt} (hrule : s.router.state.rule = some rule)
      (hout : p.outgoing (s.router.chosen req peer s.now rule).resolution.endpoint req = .ok out)
      (htried : Tried out s.loops (s.router.chosen req peer s.now rule).bindings (.error source) made
        s'.router.bindings) :
      Handled p req peer s (.error (.backendFailed
        (s.router.chosen req peer s.now rule).resolution.endpoint.backend source)) made s'
  | answered {s' : Service τ} {rule : Rule} {out : Http.Outgoing} {response : Http.Response}
      {made : List Attempt} {kept : Bindings} (hrule : s.router.state.rule = some rule)
      (hout : p.outgoing (s.router.chosen req peer s.now rule).resolution.endpoint req = .ok out)
      (htried : Tried out s.loops (s.router.chosen req peer s.now rule).bindings (.ok response) made
        kept)
      (hbindings : s'.router.bindings =
        match s.router.affinity.clientKey req.headers peer with
        | some key =>
          (Affinity.commit kept s'.now key (s.router.chosen req peer s.now rule).resolution).1
        | none => kept) :
      Handled p req peer s (.ok response) made s'

theorem handle_of_dispatch {result : Except ProxyError Http.Response}
    (h : s.dispatch p req peer = (some result, after)) :
    s.handle p req peer =
      (some result, { after with router := Proxy.record after.router req.method result }) := by
  rw [handle, h]

/-- With its attempts written down a request is handled as it is without, in one of the four ways. -/
theorem exists_handle_recording (p : Proxy) (req : Http.Request) (peer : Option Net.SocketAddr)
    (s : Service τ) :
    ∃ made, (s.recording []).handle p req peer =
        ((s.handle p req peer).1, (s.handle p req peer).2.recording made) ∧
      ((s.handle p req peer).1 = none → made = []) ∧
      ∀ result, (s.handle p req peer).1 = some result →
        Handled p req peer s result made (s.handle p req peer).2 := by
  cases hrule : s.router.state.rule with
  | none =>
    have hprepare := p.prepare_of_none req peer s.now hrule
    have hdispatch := dispatch_of_refused hprepare
    have hrecorded := dispatch_of_refused (s := s.recording []) hprepare
    rw [handle_of_dispatch hdispatch, handle_of_dispatch hrecorded]
    refine ⟨[], rfl, fun _ => rfl, ?_⟩
    intro result hresult
    cases hresult
    exact .unrouted hrule rfl rfl
  | some rule =>
    obtain ⟨r, events, hprepare, hbindings⟩ := p.prepare_of_some req peer s.now hrule
    rcases hout : p.outgoing (s.router.chosen req peer s.now rule).resolution.endpoint req with
      (e | _) | out
    · rw [hout] at hprepare
      have hdispatch := dispatch_of_refused hprepare
      have hrecorded := dispatch_of_refused (s := s.recording []) hprepare
      rw [handle_of_dispatch hdispatch, handle_of_dispatch hrecorded]
      refine ⟨[], rfl, fun _ => rfl, ?_⟩
      intro result hresult
      cases hresult
      exact .refused hrule hout hbindings
    · -- the program cannot go on, so nothing is answered and nothing has been sent
      rw [hout] at hprepare
      rw [handle, handle, dispatch_of_overflow hprepare,
        dispatch_of_overflow (s := s.recording []) hprepare]
      refine ⟨[], rfl, fun _ => rfl, ?_⟩
      intro result hresult
      cases hresult
    · rw [hout] at hprepare
      obtain ⟨made, hmade, htried⟩ := runFrom_recording p.retry out 1 (p.retry.budget - 1)
        ({ s with router := r }.report events) []
      rcases hrun : p.retry.runFrom (surroundings out) 1 (p.retry.budget - 1)
        ({ s with router := r }.report events) with ⟨answer, after⟩
      rw [hrun] at hmade htried
      have hdispatch := dispatch_of_prepared hprepare hrun
      have hrecorded := dispatch_of_prepared (s := s.recording []) hprepare hmade
      rw [handle_of_dispatch hdispatch, handle_of_dispatch hrecorded]
      refine ⟨made, rfl, nofun, ?_⟩
      intro result hresult
      cases hresult
      -- the attempts start from the bindings that the choice has left
      have htried : Tried out s.loops (s.router.chosen req peer s.now rule).bindings answer made
          after.router.bindings := hbindings ▸ htried
      cases answer with
      | error source => exact .failed hrule hout htried
      | ok response =>
        refine .answered hrule hout htried ?_
        rw [Proxy.conclude]
        cases s.router.affinity.clientKey req.headers peer <;> rfl

theorem attempts_eq {made : List Attempt} {result : Option (Except ProxyError Http.Response)}
    (h : (s.recording []).handle p req peer = (result, after.recording made)) :
    s.attempts p req peer = made := by
  rw [attempts, h]
  rfl

/-- Writing its attempts down is all that recording adds to a request. -/
theorem handle_recording (p : Proxy) (req : Http.Request) (peer : Option Net.SocketAddr)
    (s : Service τ) :
    (s.recording []).handle p req peer =
      ((s.handle p req peer).1, (s.handle p req peer).2.recording (s.attempts p req peer)) := by
  obtain ⟨made, hrecorded, -, -⟩ := exists_handle_recording p req peer s
  rw [hrecorded, attempts_eq hrecorded]

/-- Whatever the service answers, it has handled the request in one of the four ways. -/
theorem handled {result : Except ProxyError Http.Response}
    (h : s.handle p req peer = (some result, s')) :
    Handled p req peer s result (s.attempts p req peer) s' := by
  obtain ⟨made, hrecorded, -, hhandled⟩ := exists_handle_recording p req peer s
  rw [h] at hhandled
  rw [attempts_eq hrecorded]
  exact hhandled result rfl

/-- A request for which anything is sent is answered. -/
theorem exists_handle_of_attempts (h : s.attempts p req peer ≠ []) :
    ∃ result s', s.handle p req peer = (some result, s') := by
  obtain ⟨made, hrecorded, hnone, -⟩ := exists_handle_recording p req peer s
  rw [attempts_eq hrecorded] at h
  rcases hhandle : s.handle p req peer with ⟨_ | result, s'⟩
  · rw [hhandle] at hnone
    exact absurd (hnone rfl) h
  · exact ⟨result, s', rfl⟩

/-! ## A service with one backend -/

/-- A transport that gives some answers in turn, and then fails. -/
def scriptedTransport : Transport (List (Except TransportError Http.Response)) :=
  ⟨fun _ script => (script.head?.getD (.error (.network "refused")), script.tail)⟩

/-- The one backend. -/
def theBackend : Endpoint := { scheme := "http", authority := "a:8080" }

/-- A service whose only pass has found the one backend, and whose transport gives some answers in turn. -/
def scripted (options : List AffinityOption) (script : List (Except TransportError Http.Response)) :
    Service (List (Except TransportError Http.Response)) :=
  { router :=
      { locators := [], strategy := .roundRobin, affinity := ⟨options, none⟩, interval := .zero
        state := RouterState.after {} (Selection.make .roundRobin [⟨"static", .ok [theBackend]⟩] 0)
          .roundRobin }
    network := .down "unreachable"
    transport := scriptedTransport
    memory := script }

end Service

end Switchyard
