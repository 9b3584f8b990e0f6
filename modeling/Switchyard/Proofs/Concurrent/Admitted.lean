/-
Requests only ever reach admitted backends.

Whatever refreshes and other requests do meanwhile, a request goes by the state that it loaded.  That
state is sound, since it is what some passes in a row made of nothing (`isSound_state`), and all attempts
go to one backend of its rule (`tracks_run`).  The binding that names the backend may be as old as it
likes: it is honoured only if the loaded rule still holds its backend.
-/
import Switchyard.Proofs.Concurrent.SingleFlight

namespace Switchyard

/-! ## One request by itself -/

namespace Visit

/-- What a request that has loaded a state comes to, whatever its phase. -/
theorem Tracks.outcome {record : Record} {v : Visit} (h : Tracks record v) {snapshot : RouterState}
    (hload : snapshot ∈ record.loaded) :
    Reaches snapshot record.sent ∧ (∀ result ∈ record.answered, Explains snapshot result) ∧
      (snapshot.rule = none → .error .noUsableBackends ∈ record.answered ∨
        ∃ method, v = settled method (.error .noUsableBackends)) := by
  cases v with
  | absent =>
    subst h
    cases hload
  | looking e | dropping e key | picking e outcome =>
    -- nothing has been sent or answered, and a state with a rule was loaded
    subst h
    obtain rfl := List.mem_singleton.1 hload
    refine ⟨Reaches.of_errand_nil e (Rule.contains_of_mem (List.head_mem e.rule.selection_ne_nil)),
      ?_, fun hnone => absurd hnone e.rule_ne_none⟩
    intro result hresult
    cases hresult
  | chosen e resolution | routed e resolution =>
    obtain ⟨rfl, hcontains⟩ := h
    obtain rfl := List.mem_singleton.1 hload
    refine ⟨Reaches.of_errand_nil e hcontains, ?_, fun hnone => absurd hnone e.rule_ne_none⟩
    intro result hresult
    cases hresult
  | sending e q made | exchanging e q made | heard e q result =>
    obtain ⟨hloaded, hanswered, hcontains, -, hsent⟩ := h
    rw [hloaded] at hload
    obtain rfl := List.mem_singleton.1 hload
    refine ⟨Reaches.of_errand e hcontains hsent, ?_, fun hnone => absurd hnone e.rule_ne_none⟩
    rw [hanswered]
    intro result hresult
    cases hresult
  | settled method result =>
    obtain ⟨only, hloaded, hanswered, hreaches, hexplains⟩ := h
    rw [hloaded] at hload
    obtain rfl := List.mem_singleton.1 hload
    refine ⟨hreaches, ?_, ?_⟩
    · rw [hanswered]
      intro result hresult
      cases hresult
    · intro hnone
      exact Or.inr ⟨method, by rw [hexplains.2 hnone]⟩
  | closed =>
    obtain ⟨only, result, hloaded, hanswered, hreaches, hexplains⟩ := h
    rw [hloaded] at hload
    obtain rfl := List.mem_singleton.1 hload
    refine ⟨hreaches, ?_, ?_⟩
    · rw [hanswered]
      intro other hother
      rw [List.mem_singleton.1 hother]
      exact hexplains
    · intro hnone
      left
      rw [hanswered, hexplains.2 hnone]
      exact List.mem_singleton_self _
  | gone =>
    obtain ⟨only, hloaded, hanswered, hreaches, hrule⟩ := h
    rw [hloaded] at hload
    obtain rfl := List.mem_singleton.1 hload
    refine ⟨hreaches, ?_, fun hnone => absurd hnone hrule⟩
    rw [hanswered]
    intro result hresult
    cases hresult

end Visit

namespace System

variable {p : Proxy} {start s s' : System} {trace : List Label} {j : Nat}

/-! ## Requests in a run -/

/-- Each request does what its phase tells, whatever the others do. -/
theorem IsIdle.tracks_run (h : start.IsIdle) (hrun : Run p start trace s) (j : Nat) :
    Visit.Tracks (recordOf j trace) (s.visits j) := by
  induction hrun with
  | nil =>
    rw [h.visits j]
    rfl
  | snoc _ hstep ih =>
    rw [recordOf_snoc]
    cases hstep with
    | call => exact ih
    | @visit k v v' act r hv hstep =>
      subst hv
      rw [Label.note]
      by_cases hkj : k = j
      · subst hkj
        rw [if_pos rfl, visits_moveVisit_self]
        exact ih.step hstep
      · -- another request moved, so this one's phase and record are as they were
        rw [if_neg hkj, visits_moveVisit_of_ne _ _ _ _ (Ne.symm hkj)]
        exact ih
    | tick => exact ih

/-- What is published at any time is what some sound passes made of nothing. -/
theorem IsIdle.isSound_state (h : start.IsIdle) (hrun : Run p start trace s) :
    s.router.state.IsSound start.router.strategy := by
  have haccounted := h.isAccounted_run hrun
  -- every pass that was published is one that some call completed, and those are sound
  rw [haccounted.state]
  apply RouterState.isSound_afterAll (RouterState.isSound_default _)
  intro next hnext
  obtain ⟨x, hx, rfl⟩ := List.mem_map.1 hnext
  exact haccounted.isSound x (haccounted.isPrefix.subset hx)

/-- What a request has loaded, it had loaded before, or loads in this step. -/
theorem mem_loaded_note {l : Label} {record : Visit.Record} {snapshot : RouterState}
    (h : snapshot ∈ (l.note j record).loaded) :
    snapshot ∈ record.loaded ∨ l = .visit j (.load snapshot) := by
  cases l with
  | call i act => exact Or.inl h
  | tick nanos => exact Or.inl h
  | visit k act =>
    rw [Label.note] at h
    by_cases hkj : k = j
    · rw [if_pos hkj] at h
      cases act with
      | load loaded =>
        rcases List.mem_append.1 h with h | h
        · exact Or.inl h
        · rw [hkj, List.mem_singleton.1 h]
          exact Or.inr rfl
      | _ => exact Or.inl h
    · rw [if_neg hkj] at h
      exact Or.inl h

/-- A state that a request has loaded was the published one when the request loaded it. -/
theorem exists_load (hrun : Run p start trace s) {snapshot : RouterState}
    (hload : snapshot ∈ (recordOf j trace).loaded) :
    ∃ before after mid, trace = before ++ .visit j (.load snapshot) :: after ∧
      Run p start before mid ∧ mid.router.state = snapshot := by
  -- induction on the run: the load is the last step or lies in what came before it
  induction hrun with
  | nil => cases hload
  | @snoc trace l mid _ hrun hstep ih =>
    rw [recordOf_snoc] at hload
    rcases mem_loaded_note hload with hold | rfl
    · obtain ⟨before, after, earlier, htrace, hbefore, hearlier⟩ := ih hold
      refine ⟨before, after ++ [l], earlier, ?_, hbefore, hearlier⟩
      rw [htrace, List.append_assoc]
      rfl
    · refine ⟨trace, [], mid, rfl, hrun, ?_⟩
      cases hstep with
      | visit hv h => exact h.eq_state_of_load.symm

/-- **Requests only ever reach admitted backends.**  In any order of refreshes and requests, whatever the
locators and the transport answer and whatever bindings there are: a request that has loaded a published
state blames the want of a backend exactly if that state has no rule, and then it sends nothing and
cannot but answer so.  Otherwise all its attempts go to one backend of that rule, which is a candidate
of the outcome that was published with it, one that the strategy vouches for, and the only one of its
identity. -/
theorem reaches_admitted (hstart : start.IsIdle) (hrun : Run p start trace s)
    {snapshot : RouterState} (hload : snapshot ∈ (recordOf j trace).loaded) :
    (∃ before after mid, trace = before ++ .visit j (.load snapshot) :: after ∧
      Run p start before mid ∧ mid.router.state = snapshot) ∧
    (∀ result ∈ (recordOf j trace).answered,
      result = .error .noUsableBackends ↔ snapshot.rule = none) ∧
    (snapshot.rule = none → (recordOf j trace).sent = [] ∧
      (.error .noUsableBackends ∈ (recordOf j trace).answered ∨
        ∃ s', Step p s (.visit j (.answer (.error .noUsableBackends))) s')) ∧
    (∀ rule, snapshot.rule = some rule → ∃ e : Endpoint,
      e.identity ∈ rule.selection.map Endpoint.identity ∧
      (∀ out ∈ (recordOf j trace).sent, out.GoesTo e) ∧
      ∃ selection c, snapshot.selection = some selection ∧ c ∈ selection.candidates ∧
        c.identity = e.identity ∧ start.router.strategy.Vouches c ∧
        ∀ o ∈ selection.candidates, o.identity = e.identity → o = c) := by
  obtain ⟨hreaches, hexplains, hrefused⟩ := (hstart.tracks_run hrun j).outcome hload
  have hpublished := exists_load hrun hload
  obtain ⟨before, after, mid, htrace, hbefore, hmid⟩ := hpublished
  have hsound : snapshot.IsSound start.router.strategy := by
    rw [← hmid]
    exact hstart.isSound_state hbefore
  refine ⟨⟨before, after, mid, htrace, hbefore, hmid⟩, hexplains, ?_, ?_⟩
  · -- without a rule the request has nothing to send and one step left
    intro hnone
    refine ⟨?_, ?_⟩
    · rcases hreaches with ⟨-, hsent⟩ | ⟨rule, e, hrule, -, -⟩
      · exact hsent
      · rw [hnone] at hrule
        cases hrule
    · rcases hrefused hnone with hanswered | ⟨method, hsettled⟩
      · exact Or.inl hanswered
      · exact Or.inr ⟨_, Step.visit hsettled .answer⟩
  · intro rule hrule
    rcases hreaches with ⟨hnone, -⟩ | ⟨rule', e, hrule', hcontains, hsent⟩
    · rw [hnone] at hrule
      cases hrule
    · -- the backend of the loaded rule stands in the outcome that was published with the rule
      rw [hrule] at hrule'
      cases hrule'
      have he := Rule.contains_iff.1 hcontains
      exact ⟨e, he, hsent, hsound.exists_candidate hrule he⟩

/-- A request for the root. -/
def rootRequest : Http.Request :=
  { method := "GET", uri := ⟨none, [], ['/']⟩, headers := [], body := [] }

/-- What is sent to the one backend for it. -/
def rootOutgoing : Http.Outgoing :=
  ⟨"GET", ⟨some "http".toList, "a:8080".toList, ['/']⟩, [], ByteArray.empty⟩

theorem outgoing_root :
    ({} : Proxy).outgoing { scheme := "http", authority := "a:8080" } rootRequest =
      .ok rootOutgoing := rfl

/-- One request finds no rule.  Another one loads a rule, is overtaken by a pass that clears it, and
makes two attempts. -/
theorem run_overtaken :
    ∃ trace s snapshot rule, Run {} (idle rotating) trace s ∧
      (recordOf 0 trace).answered.length = 1 ∧ snapshot ∈ (recordOf 1 trace).loaded ∧
      snapshot.rule = some rule ∧
      rule.selection.map Endpoint.identity = [("http", "a:8080")] ∧
      (recordOf 1 trace).sent = [rootOutgoing, rootOutgoing] ∧ s.router.state.rule = none := by
  have h1 := (Run.nil (p := {})).snoc
    (.visit (s := idle rotating) (j := 0) rfl (.refuse rootRequest rfl))
  have h2 := h1.snoc (.visit (j := 0) rfl .answer)
  have h3 := h2.snoc (.call (i := 0) rfl (.takeTurn rfl))
  have h4 := h3.snoc (.call (i := 0) rfl (.collect [] oneBackend))
  have h5 := h4.snoc (.call (i := 0) rfl .read)
  have h6 := h5.snoc (.call (i := 0) rfl .publish)
  have h7 := h6.snoc (.call (i := 0) rfl .count)
  have h8 := h7.snoc (.call (i := 0) rfl .prune)
  have h9 := h8.snoc (.call (i := 0) rfl .leave)
  have h10 := h9.snoc (.visit (j := 1) rfl (.load rootRequest none rfl))
  -- the second pass clears the rule while the request is under way
  have h11 := h10.snoc (.call (i := 1) rfl (.takeTurn rfl))
  have h12 := h11.snoc (.call (i := 1) rfl (.collect [] []))
  have h13 := h12.snoc (.call (i := 1) rfl .read)
  have h14 := h13.snoc (.call (i := 1) rfl .publish)
  have h15 := h14.snoc (.visit (j := 1) rfl (.unbound rfl))
  have h16 := h15.snoc (.visit (j := 1) rfl .pick)
  have h17 := h16.snoc (.visit (j := 1) rfl .note)
  have h18 := h17.snoc (.visit (j := 1) rfl (.prepare outgoing_root))
  have h19 := h18.snoc (.visit (j := 1) rfl .send)
  have h20 := h19.snoc (.visit (j := 1) rfl (.again (.network "refused") rfl (by decide)))
  have h21 := h20.snoc (.visit (j := 1) rfl .send)
  exact ⟨_, _, _, _, h21, rfl, List.mem_singleton_self _, rfl, rfl, rfl, rfl⟩

/-- Both attempts of the overtaken request go to the backend of the rule that it loaded. -/
theorem reaches_admitted_overtaken :
    ∃ trace s snapshot e, Run {} (idle rotating) trace s ∧
      snapshot ∈ (recordOf 1 trace).loaded ∧ s.router.state.rule = none ∧
      Endpoint.identity e = ("http", "a:8080") ∧ rootOutgoing.GoesTo e ∧
      ∃ selection c, snapshot.selection = some selection ∧ c ∈ selection.candidates ∧
        c.identity = e.identity ∧ c.healthy = true := by
  obtain ⟨trace, s, snapshot, rule, hrun, -, hload, hrule, hselection, hsent, hcleared⟩ :=
    run_overtaken
  obtain ⟨-, -, -, hreaches⟩ := reaches_admitted (isIdle_idle rfl rfl) hrun hload
  obtain ⟨e, he, hgoes, selection, c, hselected, hc, hid, hvouches, -⟩ := hreaches rule hrule
  rw [hselection, List.mem_singleton] at he
  refine ⟨trace, s, snapshot, e, hrun, hload, hcleared, he, ?_, selection, c, hselected, hc, hid,
    hvouches.healthy⟩
  apply hgoes
  rw [hsent]
  exact List.mem_cons_self

end System

end Switchyard
