/-
The running program is one of the interleavings.

What `Router.refresh` and `Service.handle` do in one go is a run of the system in which nobody else
moves, except that the loops that are due make their passes while a request waits between two attempts.
So whatever holds of every run holds of the service (`run_handle`).
-/
import Switchyard.Proofs.Concurrent.System
import Switchyard.Proofs.Service.Handled

namespace Switchyard

namespace System

variable {p : Proxy} {s : System}

/-! ## Refreshes -/

/-- A refresh that finds the gate free is a run of one call, which nobody cancels. -/
theorem run_refresh (net : Network) {i : Nat} (hfree : s.router.gate.held = false)
    (hi : s.calls i = .fresh) :
    ∃ trace, Run p s trace (s.moveCall i (s.router.refresh net s.now).2.1 .performed) ∧
      ∀ k, Label.call k .cancel ∉ trace := by
  obtain ⟨hwriter, -⟩ := Router.enter_of_free hfree
  rw [Router.refresh_of_free hfree]
  generalize hentered : s.router.enter.2.1 = entered
  -- from here on the steps are those of the pass, each on the router that the one before it left
  have h1 := (Run.nil (p := p)).snoc (Step.call hi (.takeTurn hwriter))
  rw [hentered] at h1
  have h2 := h1.call (.collect (Locator.discoverAll net entered.locators).2.1
    (entered.discover net).1)
  have h3 := h2.call .read
  have h4 := h3.call .publish
  have h5 := h4.call .count
  have h6 := h5.call .prune
  have h7 := h6.call .leave
  exact ⟨_, h7, by simp⟩

/-! ## Loops -/

variable {τ : Type} {svc svc' : Service τ} {n : Nat}

/-- The system stands where the service does, and nobody but the service is about. -/
structure Follows (svc : Service τ) (n : Nat) (s : System) : Prop where
  router_eq : s.router = svc.router
  now_eq : s.now = svc.now
  free : s.router.gate.held = false
  fresh : ∀ i, n ≤ i → s.calls i = .fresh

/-- The system has a run to where the service stands, in which no request moves. -/
def CatchesUp (p : Proxy) (s : System) (svc : Service τ) : Prop :=
  ∃ trace s' n, Run p s trace s' ∧ s'.Follows svc n ∧ s'.visits = s.visits

theorem Follows.catchesUp (h : s.Follows svc n) : CatchesUp p s svc := ⟨[], s, n, .nil, h, rfl⟩

theorem CatchesUp.trans (h : CatchesUp p s svc)
    (hnext : ∀ s n, Follows svc n s → CatchesUp p s svc') : CatchesUp p s svc' := by
  obtain ⟨before, mid, n, hbefore, hmid, hvisits⟩ := h
  obtain ⟨after, s', m, hafter, hs', hvisits'⟩ := hnext mid n hmid
  exact ⟨before ++ after, s', m, hbefore.append hafter, hs', hvisits'.trans hvisits⟩

/-- Only the router and the clock of a service matter. -/
theorem Follows.congr (h : s.Follows svc n) (hrouter : svc'.router = svc.router)
    (hnow : svc'.now = svc.now) : s.Follows svc' n :=
  ⟨h.router_eq.trans hrouter.symm, h.now_eq.trans hnow.symm, h.free, h.fresh⟩

theorem CatchesUp.congr (h : CatchesUp p s svc) (hrouter : svc'.router = svc.router)
    (hnow : svc'.now = svc.now) : CatchesUp p s svc' := by
  obtain ⟨trace, s', n, hrun, hs', hvisits⟩ := h
  exact ⟨trace, s', n, hrun, hs'.congr hrouter hnow, hvisits⟩

/-- The system stands where the service does after a refresh by a call that has not moved before. -/
theorem Follows.moveCall_refresh (h : s.Follows svc n) :
    (s.moveCall n (s.router.refresh svc.network s.now).2.1 .performed).Follows svc.refresh.2 (n + 1) := by
  refine ⟨?_, h.now_eq, ?_, ?_⟩
  · rw [router_moveCall, h.router_eq, h.now_eq]
    rfl
  · rw [router_moveCall, Router.refresh_of_free h.free]
    rfl
  · intro i hi
    rw [calls_moveCall_of_ne _ _ _ _ (by omega : i ≠ n)]
    exact h.fresh i (by omega)

theorem Follows.refresh (h : s.Follows svc n) : CatchesUp p s svc.refresh.2 := by
  obtain ⟨trace, hrun, -⟩ := run_refresh (p := p) svc.network h.free (h.fresh n (Nat.le_refl n))
  exact ⟨trace, _, n + 1, hrun, h.moveCall_refresh, rfl⟩

theorem Follows.tick (h : s.Follows svc n) (wake : Nat) :
    CatchesUp p s { svc with now := max svc.now wake } := by
  refine ⟨[.tick (wake - s.now)], { s with now := s.now + (wake - s.now) }, n,
    Run.nil.snoc (.tick _), ⟨h.router_eq, ?_, h.free, h.fresh⟩, rfl⟩
  have hnow := h.now_eq
  show s.now + (wake - s.now) = max svc.now wake
  omega

/-- While the service waits, due loops make their passes. -/
theorem Follows.waits (h : s.Follows svc n) (hwaits : svc.Waits svc') : CatchesUp p s svc' := by
  induction hwaits with
  | refl => exact h.catchesUp
  | report _ _ ih => exact ih.congr rfl rfl
  | refresh _ _ ih => exact ih.trans fun s n h => h.refresh
  | tick _ wake ih => exact ih.trans fun s n h => h.tick wake
  | note _ _ ih => exact ih.congr rfl rfl
  | draw _ _ ih => exact ih.congr rfl rfl

/-! ## Requests -/

variable {j : Nat} {e : Errand} {q : Proxy.Prepared}

/-- The choice of a backend is made of the lookup, the removal of a binding and the pick. -/
theorem run_resolve {before : List Label} {start : System} {r : Router}
    (hrun : Run p start before (s.moveVisit j r (.looking e))) :
    ∃ trace, Run p start trace (s.moveVisit j
      { r with
        bindings := (r.affinity.resolve r.bindings r.cursor s.now e.rule e.key).bindings
        cursor := (r.affinity.resolve r.bindings r.cursor s.now e.rule e.key).cursor }
      (.chosen e (r.affinity.resolve r.bindings r.cursor s.now e.rule e.key).resolution)) := by
  cases hkey : e.key with
  | none => exact ⟨_, (hrun.visit (.unbound hkey)).visit .pick⟩
  | some key =>
    cases hlookup : r.affinity.lookup r.bindings s.now e.rule key with
    | usable b =>
      simp only [Affinity.resolve, hlookup]
      exact ⟨_, hrun.visit (.hit hkey hlookup)⟩
    | unusable b =>
      simp only [Affinity.resolve, hlookup]
      exact ⟨_, ((hrun.visit (.stale hkey hlookup)).visit .drop).visit .pick⟩
    | nothing =>
      simp only [Affinity.resolve, hlookup]
      exact ⟨_, (hrun.visit (.miss hkey hlookup)).visit .pick⟩

/-- A request that is prepared has loaded the published state, chosen a backend and counted its
choice. -/
theorem run_prepare (req : Http.Request) (peer : Option Net.SocketAddr)
    (hj : s.visits j = .absent) :
    ∃ trace v, Run p s trace (s.moveVisit j (p.prepare s.router req peer s.now).2.1 v) ∧
      match (p.prepare s.router req peer s.now).1 with
      | .ok q => ∃ e, e.request = req ∧ v = .sending e q 0
      | .error (.error error) => v = .settled req.method (.error error)
      | .error .overflow => v = .gone := by
  rw [Proxy.prepare]
  cases hrule : s.router.state.rule with
  | none =>
    refine ⟨_, _, Run.nil.snoc (.visit hj (.refuse req hrule)), ?_⟩
    rfl
  | some rule =>
    have hload := (Run.nil (p := p)).snoc (.visit hj (.load req peer hrule))
    obtain ⟨trace, hchosen⟩ := run_resolve hload
    have hrouted := hchosen.visit .note
    generalize hchoice : s.router.affinity.resolve s.router.bindings s.router.cursor s.now rule
      (s.router.affinity.clientKey req.headers peer) = choice at hrouted
    simp only [hchoice]
    cases hout : p.outgoing choice.resolution.endpoint req with
    | ok out => exact ⟨_, _, hrouted.visit (.prepare hout), _, rfl, rfl⟩
    | error refusal =>
      cases refusal with
      | error error => exact ⟨_, _, hrouted.visit (.reject hout), rfl⟩
      | overflow => exact ⟨_, _, hrouted.visit (.overflow hout), rfl⟩

/-- A request moves on, and leaves the router as the service has it. -/
theorem Follows.visit (h : s.Follows svc n) {act : Visit.Act} {r : Router} {v v' : Visit}
    (hj : s.visits j = v) (hstep : Visit.Step p s.now s.router v act r v')
    (hrouter : svc'.router = r) (hnow : svc'.now = svc.now) :
    Run p s [.visit j act] (s.moveVisit j r v') ∧ (s.moveVisit j r v').Follows svc' n := by
  obtain ⟨-, hgate, -⟩ := hstep.frame
  refine ⟨Run.nil.snoc (.visit hj hstep), hrouter.symm, h.now_eq.trans hnow.symm, ?_, h.fresh⟩
  rw [router_moveVisit, hgate]
  exact h.free

/-- A request makes an attempt, which leaves the router and the clock alone. -/
theorem Follows.attempt (h : s.Follows svc n) {made : Nat} (hj : s.visits j = .sending e q made)
    {result : Except TransportError Http.Response}
    (hattempt : (Service.surroundings q.outgoing).attempt svc = (result, svc')) :
    ∃ s', Run p s [.visit j (.send q.outgoing)] s' ∧ s'.Follows svc' n ∧
      s'.visits j = .exchanging e q (made + 1) := by
  have hframe : svc'.router = svc.router ∧ svc'.now = svc.now := by
    cases hattempt
    exact ⟨rfl, rfl⟩
  obtain ⟨hsend, hsent⟩ := h.visit (p := p) hj .send (hframe.1.trans h.router_eq.symm) hframe.2
  exact ⟨_, hsend, hsent, visits_moveVisit_self _ _ _ _⟩

/-- A request hears what its last attempt came to. -/
theorem Follows.hear (h : s.Follows svc n) {made : Nat}
    (hj : s.visits j = .exchanging e q made) {result : Except TransportError Http.Response}
    (hlast : ∀ error, result = .error error →
      error.isRetryable = false ∨ p.retry.budget ≤ made) :
    ∃ s', Run p s [.visit j .hear] s' ∧ s'.Follows svc n ∧ s'.visits j = .heard e q result := by
  have hstep : Visit.Step p s.now s.router (.exchanging e q made) .hear s.router
      (.heard e q result) := by
    cases result with
    | ok response => exact .reply response
    | error error => exact .fail error (hlast error rfl)
  obtain ⟨hhear, hheard⟩ := h.visit hj hstep h.router_eq.symm rfl
  exact ⟨_, hhear, hheard, visits_moveVisit_self _ _ _ _⟩

/-- The last attempt of a request ends the loop of attempts. -/
theorem Follows.runFrom_of_end (left : Nat) {made : Nat} (h : s.Follows svc n)
    (hj : s.visits j = .sending e q made) (hleft : made + 1 + left = p.retry.budget)
    {result : Except TransportError Http.Response}
    (hattempt : (Service.surroundings q.outgoing).attempt svc = (result, svc'))
    (hend : ∀ error, result = .error error → error.isRetryable = false ∨ left = 0) :
    ∃ trace s' m, Run p s trace s' ∧
      s'.Follows (p.retry.runFrom (Service.surroundings q.outgoing) (made + 1) left svc).2 m ∧
      s'.visits j =
        .heard e q (p.retry.runFrom (Service.surroundings q.outgoing) (made + 1) left svc).1 := by
  obtain ⟨mid, hsend, hmid, hexchanging⟩ := h.attempt (p := p) hj hattempt
  have hlast : ∀ error, result = .error error →
      error.isRetryable = false ∨ p.retry.budget ≤ made + 1 := by
    intro error herror
    rcases hend error herror with hfatal | hzero
    · exact Or.inl hfatal
    · exact Or.inr (by omega)
  obtain ⟨s', hhear, hs', hheard⟩ := hmid.hear hexchanging hlast
  obtain ⟨hresult, hafter⟩ := p.retry.runFrom_of_end (made + 1) left hattempt hend
  refine ⟨_, s', n, hsend.append hhear, ?_, ?_⟩
  · rcases hafter with hafter | ⟨event, hafter⟩
    · rw [hafter]
      exact hs'
    · rw [hafter]
      exact hs'.congr rfl rfl
  · rw [hresult]
    exact hheard

/-- The attempts of a request, with whatever the loops do between them. -/
theorem Follows.runFrom (left : Nat) {made : Nat} (h : s.Follows svc n)
    (hj : s.visits j = .sending e q made) (hleft : made + 1 + left = p.retry.budget) :
    ∃ trace s' m, Run p s trace s' ∧
      s'.Follows (p.retry.runFrom (Service.surroundings q.outgoing) (made + 1) left svc).2 m ∧
      s'.visits j =
        .heard e q (p.retry.runFrom (Service.surroundings q.outgoing) (made + 1) left svc).1 := by
  induction left generalizing svc s n made with
  | zero =>
    rcases hattempt : (Service.surroundings q.outgoing).attempt svc with ⟨result, after⟩
    exact h.runFrom_of_end 0 hj hleft hattempt fun _ _ => Or.inr rfl
  | succ left ih =>
    rcases hattempt : (Service.surroundings q.outgoing).attempt svc with ⟨error | response, after⟩
    · cases hretry : error.isRetryable with
      | false =>
        apply h.runFrom_of_end (left + 1) hj hleft hattempt
        intro other hother
        rw [← Except.error.inj hother]
        exact Or.inl hretry
      | true =>
        obtain ⟨mid, hsend, hmid, hexchanging⟩ := h.attempt (p := p) hj hattempt
        obtain ⟨hagain, hready⟩ := hmid.visit (p := p) hexchanging
          (.again error hretry (by omega)) hmid.router_eq.symm rfl
        rw [p.retry.runFrom_of_retry (made + 1) left hattempt hretry]
        -- before the next attempt due loops may make their passes
        have hwait := hready.waits (p := p) (Service.waits_rest p.retry (made + 1) q.outgoing error after)
        obtain ⟨waiting, late, m, hlate, hfollows, hvisits⟩ := hwait
        have hsending : late.visits j = .sending e q (made + 1) := by
          rw [hvisits, visits_moveVisit_self]
        obtain ⟨rest, s', k, hrest, hs', hheard⟩ := ih hfollows hsending (by omega)
        exact ⟨_, s', k, ((hsend.append hagain).append hlate).append hrest, hs', hheard⟩
    · apply h.runFrom_of_end (left + 1) hj hleft hattempt
      intro other hother
      cases hother

/-- **Forwarding is a run.**  What the service makes of a request, loops included, the system makes of
it too: it leaves the same router at the same time, and is about to answer the same. -/
theorem Follows.dispatch (h : s.Follows svc n) (hj : s.visits j = .absent) {req : Http.Request}
    {peer : Option Net.SocketAddr} {result : Except ProxyError Http.Response}
    (hdispatch : svc.dispatch p req peer = (some result, svc')) :
    ∃ trace s' m, Run p s trace s' ∧ s'.Follows svc' m ∧
      s'.visits j = .settled req.method result := by
  obtain ⟨trace, v, hrun, hv⟩ := run_prepare (p := p) req peer hj
  have hgate : (p.prepare s.router req peer s.now).2.1.gate = s.router.gate := by
    rw [Proxy.prepare]
    split <;> rfl
  rw [h.router_eq, h.now_eq] at hrun hv hgate
  rcases hprepare : p.prepare svc.router req peer svc.now with ⟨prepared, router, events⟩
  rw [hprepare] at hrun hv hgate
  have hready : (s.moveVisit j router v).Follows ({ svc with router }.report events) n := by
    refine ⟨rfl, h.now_eq, ?_, h.fresh⟩
    rw [router_moveVisit, hgate, ← h.router_eq]
    exact h.free
  have hat : (s.moveVisit j router v).visits j = v := visits_moveVisit_self _ _ _ _
  cases prepared with
  | error refusal =>
    rw [Service.dispatch, hprepare] at hdispatch
    cases refusal with
    | error error =>
      cases hdispatch
      exact ⟨trace, _, n, hrun, hready, hat.trans hv⟩
    | overflow => cases hdispatch
  | ok q =>
    obtain ⟨e, rfl, rfl⟩ := hv
    -- the first attempt is made with the whole budget left
    have hbudget : 0 + 1 + (p.retry.budget - 1) = p.retry.budget := by
      have hpos : 1 ≤ p.retry.budget := Nat.le_max_left 1 p.retry.maxAttempts
      omega
    obtain ⟨attempts, late, m, hattempts, hlate, hheard⟩ := hready.runFrom _ hat hbudget
    rcases houtcome : p.retry.run (Service.surroundings q.outgoing)
      ({ svc with router }.report events) with ⟨outcome, after⟩
    have hfrom : p.retry.runFrom (Service.surroundings q.outgoing) (0 + 1) (p.retry.budget - 1)
        ({ svc with router }.report events) = (outcome, after) := houtcome
    rw [hfrom] at hlate hheard
    rw [Service.dispatch_of_prepared hprepare houtcome] at hdispatch
    cases hdispatch
    rw [← hlate.router_eq, ← hlate.now_eq]
    refine ⟨_, _, m, (hrun.append hattempts).append (Run.nil.snoc (.visit hheard .conclude)), ?_,
      visits_moveVisit_self _ _ _ _⟩
    exact (hlate.visit (p := p) hheard .conclude rfl hlate.now_eq).2

/-- A request that has been forwarded is answered as the service answers it. -/
theorem Follows.handle (h : s.Follows svc n) (hj : s.visits j = .absent) {req : Http.Request}
    {peer : Option Net.SocketAddr} {result : Except ProxyError Http.Response}
    (hhandle : svc.handle p req peer = (some result, svc')) :
    ∃ before mid s' m, Run p s before mid ∧ Step p mid (.visit j (.answer result)) s' ∧
      s'.Follows svc' m ∧ s'.visits j = .closed := by
  rw [Service.handle] at hhandle
  rcases hdispatch : svc.dispatch p req peer with ⟨_ | other, after⟩
  · rw [hdispatch] at hhandle
    cases hhandle
  · rw [hdispatch] at hhandle
    obtain ⟨hresult, hsvc⟩ := Prod.mk.inj hhandle
    obtain ⟨before, mid, m, hbefore, hmid, hsettled⟩ := h.dispatch hj hdispatch
    rw [Option.some.inj hresult] at hsettled hsvc
    refine ⟨before, mid, _, m, hbefore, .visit hsettled .answer, ?_, visits_moveVisit_self _ _ _ _⟩
    refine ⟨?_, ?_, hmid.free, hmid.fresh⟩
    · rw [router_moveVisit, ← hsvc, hmid.router_eq]
    · rw [← hsvc]
      exact hmid.now_eq

/-- **The service runs the system.**  However the service handles a request, from any router whose turn
is free, there is a run from nobody having moved that ends with the same answer, the same router and the
same time. -/
theorem run_handle (hfree : svc.router.gate.held = false) {req : Http.Request}
    {peer : Option Net.SocketAddr} {result : Except ProxyError Http.Response}
    (hhandle : svc.handle p req peer = (some result, svc')) :
    ∃ before mid s', Run p (idle svc.router svc.now) before mid ∧
      Step p mid (.visit 0 (.answer result)) s' ∧ s'.router = svc'.router ∧ s'.now = svc'.now := by
  have hfollows : (idle svc.router svc.now).Follows svc 0 := ⟨rfl, rfl, hfree, fun _ _ => rfl⟩
  obtain ⟨before, mid, s', _, hbefore, hanswer, hs', -⟩ := hfollows.handle (j := 0) rfl hhandle
  exact ⟨before, mid, s', hbefore, hanswer, hs'.router_eq, hs'.now_eq⟩

end System

end Switchyard
