/-
Bindings to backends that are not selected any more.

A pass that is applied publishes a state and then prunes the bindings by it, so no binding that was there
before outlives a change of the rule.  What can be left is a binding that is committed afterwards, by a
request that goes by an older state.  `Meanwhile` says what may have come of the state that such a request
has loaded, and `Commit` traces a binding back to its request.

The states published so far are listed by `versionsOf`: a request that loaded its state before the
current one was published has seen fewer of them.
-/
import Switchyard.Proofs.Affinity.Choice
import Switchyard.Proofs.Concurrent.Admitted

namespace Switchyard

/-! ## Published states -/

namespace RouterState

/-- The rule in force is for the endpoint's backend, among others. -/
def Selects (s : RouterState) (e : Endpoint) : Prop :=
  ∃ rule, s.rule = some rule ∧ rule.contains e = true

/-- The state that a transition publishes. -/
def Transition.published : Transition → Option RouterState
  | .install next | .replace next => some next
  | .keep => none

/-- The states that some passes in a row publish, in that order. -/
def versions (strategy : Strategy) (rs : List Selection) : List RouterState :=
  rs.foldl (fun states r => states ++ ((states.getLastD {}).transition r strategy).published.toList) []

/-- A pass after which the state is another one has published it. -/
theorem after_eq_or_published (s : RouterState) (r : Selection) (strategy : Strategy) :
    s.after r strategy = s ∨ ∃ next, (s.transition r strategy).published = some next := by
  rw [after]
  cases s.transition r strategy with
  | install next | replace next => exact Or.inr ⟨next, rfl⟩
  | keep => exact Or.inl rfl

theorem versions_snoc (strategy : Strategy) (rs : List Selection) (r : Selection) :
    versions strategy (rs ++ [r]) = versions strategy rs ++
      (((versions strategy rs).getLastD {}).transition r strategy).published.toList := by
  rw [versions, List.foldl_append]
  rfl

/-- What some passes in a row make of nothing is the state that was published last. -/
theorem afterAll_eq_getLastD (strategy : Strategy) (rs : List Selection) :
    afterAll strategy {} rs = (versions strategy rs).getLastD {} := by
  induction rs using List.reverseRecOn with
  | nil => rfl
  | append_singleton rs r ih =>
    rw [afterAll_snoc, ih, versions_snoc, after]
    cases ((versions strategy rs).getLastD {}).transition r strategy with
    | keep => simp [Transition.published]
    | install next | replace next => simp [Transition.published]

theorem versions_prefix (strategy : Strategy) (rs later : List Selection) :
    versions strategy rs <+: versions strategy (rs ++ later) := by
  induction later using List.reverseRecOn with
  | nil => simp
  | append_singleton later r ih =>
    rw [← List.append_assoc, versions_snoc]
    exact ih.trans (List.prefix_append _ _)

end RouterState

/-! ## One step by itself -/

/-- Every binding that pruning leaves is to a backend of the rule in force. -/
theorem Router.selects_of_prune {r : Router} {now : Nat} {key : String} {b : Binding}
    (h : (r.prune now).1.bindings.get? key = some b) : r.state.Selects b.endpoint := by
  change (r.affinity.prune r.bindings now r.state.rule).get? key = some b at h
  cases hrule : r.state.rule with
  | none =>
    rw [hrule] at h
    cases h
  | some rule =>
    rw [hrule, Affinity.prune, Bindings.get?_keepIf, Option.filter_eq_some_iff] at h
    exact ⟨rule, hrule, (Affinity.isUsable_iff.1 h.2).1⟩

/-- Concluding a request binds nobody, unless the backend has answered and the choice of it was new. -/
theorem Proxy.get?_conclude {r : Router} {q : Prepared}
    {result : Except TransportError Http.Response} {now : Nat} {key : String} {b : Binding}
    (h : (conclude r q result now).2.1.bindings.get? key = some b) :
    r.bindings.get? key = some b ∨
      ∃ response, result = .ok response ∧ q.key = some key ∧ q.resolution.isNew = true ∧
        b = ⟨q.resolution.endpoint, now⟩ := by
  rcases result with source | response
  · exact Or.inl h
  cases hkey : q.key with
  | none =>
    simp only [conclude, hkey] at h
    exact Or.inl h
  | some own =>
    simp only [conclude, hkey] at h
    cases hnew : q.resolution.isNew with
    | false =>
      rw [Affinity.commit_of_not_isNew hnew] at h
      exact Or.inl h
    | true =>
      rw [Affinity.get?_commit_of_isNew hnew] at h
      by_cases hk : key = own
      · rw [if_pos hk] at h
        exact Or.inr ⟨response, rfl, by rw [hk], rfl, (Option.some.inj h).symm⟩
      · rw [if_neg hk] at h
        exact Or.inl h

/-- A step publishes, prunes, or does neither and leaves the state and the bindings alone.  Only by
pruning does a call come to the end of applying its pass. -/
theorem Call.Step.apply_cases {now : Nat} {r r' : Router} {c c' : Call} {act : Call.Act}
    (h : Call.Step now r c act r' c') :
    (∃ next current, act = .publish next ∧ c = .merging next current ∧ c' = .published next ∧
      r' = r.publish (current.transition next r.strategy)) ∨
    (act = .prune ∧ c.isApplying = true ∧ r' = (r.prune now).1) ∨
    (act.applied = none ∧ act ≠ .prune ∧ (c.isApplying = true → c'.isApplying = true) ∧
      r'.state = r.state ∧ r'.bindings = r.bindings) := by
  cases h with
  | publish => exact Or.inl ⟨_, _, rfl, rfl, rfl, rfl⟩
  | prune => exact Or.inr (Or.inl ⟨rfl, rfl, rfl⟩)
  | takeTurn h =>
    obtain ⟨-, hr⟩ := Router.enter_writer h
    exact Or.inr (Or.inr ⟨rfl, nofun, nofun, by rw [hr], by rw [hr]⟩)
  | takePlace h =>
    obtain ⟨-, -, hr⟩ := Router.enter_waiter h
    exact Or.inr (Or.inr ⟨rfl, nofun, nofun, by rw [hr], by rw [hr]⟩)
  | read | count => exact Or.inr (Or.inr ⟨rfl, nofun, fun _ => rfl, rfl, rfl⟩)
  | _ => exact Or.inr (Or.inr ⟨rfl, nofun, nofun, rfl, rfl⟩)

namespace Visit

/-- What a request goes by, from loading a state until it has concluded. -/
def errand? : Visit → Option Errand
  | looking e | dropping e _ | picking e _ | chosen e _ | routed e _ | sending e _ _
  | exchanging e _ _ | heard e _ _ => some e
  | _ => none

/-- A request goes by what it went by before, or has just loaded it. -/
theorem Step.errand?_cases {p : Proxy} {now : Nat} {r r' : Router} {v v' : Visit} {act : Act}
    (h : Step p now r v act r' v') {e : Errand} (he : v'.errand? = some e) :
    v.errand? = some e ∨ (act = .load e.snapshot ∧ e.snapshot = r.state) := by
  cases h with
  | load request peer hrule =>
    cases he
    exact Or.inr ⟨rfl, rfl⟩
  | refuse | reject | overflow | conclude | answer | leaveReading | leaveSending | leaveExchanging =>
    cases he -- nothing is left to go by
  | _ => exact Or.inl he

/-- The binding that a request is about to commit. -/
def Commits (now : Nat) (snapshot : RouterState) (key : String) (b : Binding) : Visit → Prop
  | heard e q (.ok _) => e.snapshot = snapshot ∧ q.key = some key ∧ q.resolution.isNew = true ∧
      b = ⟨q.resolution.endpoint, now⟩
  | _ => False

/-- What a request commits is a backend of the rule that it goes by. -/
theorem Commits.contains {v : Visit} {record : Record} {now : Nat} {snapshot : RouterState}
    {key : String} {b : Binding} {e : Errand} (h : v.Commits now snapshot key b)
    (hv : Tracks record v) (he : v.errand? = some e) : e.rule.contains b.endpoint = true := by
  cases v with
  | heard e' q result =>
    cases he
    obtain ⟨-, -, hcontains, -, -⟩ := hv
    cases result with
    | ok response =>
      obtain ⟨-, -, -, rfl⟩ := h
      exact hcontains
    | error source => exact h.elim
  | _ => exact h.elim

/-- A step of a request binds nobody, unless it commits a choice that was new. -/
theorem Step.get?_bindings {p : Proxy} {now : Nat} {r r' : Router} {v v' : Visit} {act : Act}
    (h : Step p now r v act r' v') {key : String} {b : Binding}
    (hb : r'.bindings.get? key = some b) :
    r.bindings.get? key = some b ∨
      (act = .conclude ∧ ∃ e, v.errand? = some e ∧ v.Commits now e.snapshot key b) := by
  cases h with
  | drop => exact Or.inl (Affinity.get?_of_dropUnusable hb)
  | @conclude e q result =>
    rcases Proxy.get?_conclude hb with hold | ⟨response, rfl, hcommits⟩
    · exact Or.inl hold
    · exact Or.inr ⟨rfl, e, rfl, rfl, hcommits⟩
  | _ => exact Or.inl hb

end Visit

/-- The step of a call publishes its pass or prunes by it. -/
def Label.applies : Label → Bool
  | .call _ (.publish _) | .call _ .prune => true
  | _ => false

namespace System

variable {p : Proxy} {start s s' : System} {trace : List Label} {l : Label} {strategy : Strategy}

/-- The states that were published in a run, in that order. -/
def versionsOf (strategy : Strategy) (trace : List Label) : List RouterState :=
  RouterState.versions strategy ((applications trace).map Prod.snd)

theorem versionsOf_length_le (strategy : Strategy) (before after : List Label) :
    (versionsOf strategy before).length ≤ (versionsOf strategy (before ++ after)).length := by
  apply List.IsPrefix.length_le
  rw [versionsOf, versionsOf, applications, applications, List.filterMap_append, List.map_append]
  exact RouterState.versions_prefix _ _ _

/-- The published state is the one that was published last. -/
theorem IsAccounted.state_eq_getLastD (ha : s.IsAccounted strategy trace) :
    s.router.state = (versionsOf strategy trace).getLastD {} :=
  ha.state.trans (RouterState.afterAll_eq_getLastD _ _)

/-- A pass that publishes a state adds to the states that were published. -/
theorem IsAccounted.versionsOf_lt (ha : s.IsAccounted strategy trace) (i : Nat) {next : Selection}
    {newer : RouterState}
    (hpublished : (s.router.state.transition next s.router.strategy).published = some newer) :
    (versionsOf strategy trace).length <
      (versionsOf strategy (trace ++ [.call i (.publish next)])).length := by
  have hnewer : versionsOf strategy (trace ++ [.call i (.publish next)]) =
      versionsOf strategy trace ++ [newer] := by
    rw [ha.state_eq_getLastD, ha.strategy_eq] at hpublished
    rw [versionsOf, applications_snoc, List.map_append]
    refine (RouterState.versions_snoc _ _ _).trans ?_
    rw [← versionsOf, hpublished]
    rfl
  rw [hnewer, List.length_append]
  exact Nat.lt_succ_self _

/-! ## Applying a pass -/

/-- What a step does to the published state, and who is applying a pass after it. -/
theorem Step.apply_cases (h : Step p s l s') (hs : s.IsSerial) :
    (∃ i next, l = .call i (.publish next) ∧ (s.calls i).isApplying = true ∧
      (s'.calls i).isApplying = true ∧
      s'.router.state = s.router.state.after next s.router.strategy) ∨
    (∃ i, l = .call i .prune ∧ (s.calls i).isApplying = true ∧
      s'.router.state = s.router.state ∧
      ∀ key b, s'.router.bindings.get? key = some b → s'.router.state.Selects b.endpoint) ∨
    (l.applies = false ∧ s'.router.state = s.router.state ∧
      ∀ i, (s.calls i).isApplying = true → (s'.calls i).isApplying = true) := by
  cases h with
  | @call i c c' act r hc h =>
    rcases h.apply_cases with ⟨next, current, rfl, rfl, rfl, rfl⟩ | ⟨rfl, happlying, rfl⟩ |
      ⟨hpublish, hprune, happlying, hstate, -⟩
    · -- the state that was read is still in force
      left
      refine ⟨i, next, rfl, ?_, ?_, ?_⟩
      · rw [hc]
        rfl
      · rw [calls_moveCall_self]
        rfl
      · rw [router_moveCall, hs.current i next current hc, Router.state_publish]
    · right
      left
      refine ⟨i, rfl, ?_, rfl, ?_⟩
      · rw [hc]
        exact happlying
      · intro key b hb
        show s.router.state.Selects b.endpoint
        exact Router.selects_of_prune hb
    · right
      right
      refine ⟨?_, hstate, ?_⟩
      · cases act with
        | publish next => cases hpublish
        | prune => exact absurd rfl hprune
        | _ => rfl
      · intro k hk
        by_cases hki : k = i
        · subst hki
          rw [calls_moveCall_self]
          rw [hc] at hk
          exact happlying hk
        · rw [calls_moveCall_of_ne _ _ _ _ hki]
          exact hk
  | visit hv h =>
    obtain ⟨hstate, -, -⟩ := h.frame
    exact Or.inr (Or.inr ⟨rfl, hstate, fun _ => id⟩)
  | tick nanos => exact Or.inr (Or.inr ⟨rfl, rfl, fun _ => id⟩)

/-- No two calls apply a pass at a time. -/
theorem IsSerial.eq_of_isApplying (hs : s.IsSerial) {i k : Nat}
    (hi : (s.calls i).isApplying = true) (hk : (s.calls k).isApplying = true) : i = k :=
  hs.exclusive i k (Call.holdsTurn_of_isApplying hi) (Call.holdsTurn_of_isApplying hk)

/-- Within these steps some refresh publishes its pass and then prunes by it. -/
def SpansRefresh (during : List Label) : Prop :=
  ∃ i next u v w, during = u ++ .call i (.publish next) :: v ++ .call i .prune :: w

theorem SpansRefresh.snoc {during : List Label} (h : SpansRefresh during) (l : Label) :
    SpansRefresh (during ++ [l]) := by
  obtain ⟨i, next, u, v, w, rfl⟩ := h
  exact ⟨i, next, u, v, w ++ [l], by simp⟩

/-- After some steps, what a state that was published before them has come to: it still is, or another
one has been published, by a call that is still to prune or by one that has pruned. -/
def Meanwhile (strategy : Strategy) (before during : List Label) (snapshot : RouterState)
    (s : System) : Prop :=
  s.router.state = snapshot ∨
    (versionsOf strategy before).length < (versionsOf strategy (before ++ during)).length ∧
      ((∃ i next, .call i (.publish next) ∈ during ∧ (s.calls i).isApplying = true) ∨
        SpansRefresh during)

theorem Meanwhile.step {before during : List Label} {snapshot : RouterState}
    (hm : Meanwhile strategy before during snapshot s) (hs : s.IsSerial)
    (ha : s.IsAccounted strategy (before ++ during)) (h : Step p s l s') :
    Meanwhile strategy before (during ++ [l]) snapshot s' := by
  rcases hm with hstate | ⟨hlt, hspan⟩
  · -- nothing was published so far, and nothing is unless this step publishes another state
    rcases h.apply_cases hs with ⟨i, next, rfl, -, happlying, hstate'⟩ | ⟨i, rfl, -, hstate', -⟩ |
      ⟨-, hstate', -⟩
    · rcases s.router.state.after_eq_or_published next s.router.strategy with
        hsame | ⟨newer, hpublished⟩
      · exact Or.inl ((hstate'.trans hsame).trans hstate)
      · right
        refine ⟨?_, Or.inl ⟨i, next, ?_, happlying⟩⟩
        · rw [← List.append_assoc]
          exact Nat.lt_of_le_of_lt (versionsOf_length_le strategy before during)
            (ha.versionsOf_lt i hpublished)
        · exact List.mem_append_right _ (List.mem_singleton_self _)
    · exact Or.inl (hstate'.trans hstate)
    · exact Or.inl (hstate'.trans hstate)
  · right
    constructor
    · rw [← List.append_assoc]
      exact Nat.lt_of_lt_of_le hlt (versionsOf_length_le strategy (before ++ during) [l])
    · rcases hspan with ⟨i, next, hmem, happlying⟩ | hspan
      · have hmem' := List.mem_append_left [l] hmem
        -- nobody else applies a pass, so whoever publishes or prunes now is the same call
        rcases h.apply_cases hs with ⟨k, other, rfl, hk, hk', -⟩ | ⟨k, rfl, hk, -, -⟩ |
          ⟨-, -, hkeeps⟩
        · obtain rfl := hs.eq_of_isApplying happlying hk
          exact Or.inl ⟨i, next, hmem', hk'⟩
        · obtain rfl := hs.eq_of_isApplying happlying hk
          obtain ⟨u, v, rfl⟩ := List.append_of_mem hmem
          exact Or.inr ⟨i, next, u, v, [], rfl⟩
        · exact Or.inl ⟨i, next, hmem', hkeeps i happlying⟩
      · exact Or.inr (hspan.snoc l)

/-! ## Requests under way -/

section Requests

variable {j : Nat} {e : Errand}

theorem Step.errand?_cases (h : Step p s l s') (he : (s'.visits j).errand? = some e) :
    (s.visits j).errand? = some e ∨
      (l = .visit j (.load e.snapshot) ∧ s'.router.state = e.snapshot) := by
  cases h with
  | call => exact Or.inl he
  | tick => exact Or.inl he
  | @visit k v v' act r hv h =>
    subst hv
    by_cases hjk : j = k
    · subst hjk
      rw [visits_moveVisit_self] at he
      rcases h.errand?_cases he with hold | ⟨rfl, hsnapshot⟩
      · exact Or.inl hold
      · obtain ⟨hstate, -, -⟩ := h.frame
        exact Or.inr ⟨rfl, hstate.trans hsnapshot.symm⟩
    · rw [visits_moveVisit_of_ne _ _ _ _ hjk] at he
      exact Or.inl he

/-- A request that is under way has loaded what it goes by, and since then this is what came of it. -/
theorem IsIdle.meanwhile_run (h : start.IsIdle) (hrun : Run p start trace s)
    (he : (s.visits j).errand? = some e) :
    ∃ before during, trace = before ++ .visit j (.load e.snapshot) :: during ∧
      Meanwhile start.router.strategy (before ++ [.visit j (.load e.snapshot)]) during e.snapshot
        s := by
  induction hrun with
  | nil =>
    rw [h.visits j] at he
    cases he
  | @snoc trace l mid s hrun hstep ih =>
    rcases hstep.errand?_cases he with hold | ⟨rfl, hstate⟩
    · obtain ⟨before, during, rfl, hmeanwhile⟩ := ih hold
      refine ⟨before, during ++ [l], by simp, ?_⟩
      have haccounted := h.isAccounted_run hrun
      rw [List.append_cons] at haccounted
      exact hmeanwhile.step (h.isSerial.run hrun) haccounted hstep
    · exact ⟨trace, [], rfl, Or.inl hstate⟩

end Requests

/-! ## Where bindings come from -/

section Commits

variable {key : String} {b : Binding}

/-- A step of a run that bound a key, the request whose step it was, and when that request had loaded the
state that it went by. -/
structure Commit (p : Proxy) (start : System) (trace : List Label) (s : System) (key : String)
    (b : Binding) where
  visit : Nat
  snapshot : RouterState
  before : List Label
  during : List Label
  after : List Label
  /-- The system when the request is about to commit. -/
  old : System
  new : System
  trace_eq : trace = before ++ .visit visit (.load snapshot) :: during ++
    .visit visit .conclude :: after
  run_old : Run p start (before ++ .visit visit (.load snapshot) :: during) old
  commits : (old.visits visit).Commits old.now snapshot key b
  step : Step p old (.visit visit .conclude) new
  found : new.router.bindings.get? key = some b
  run_new : Run p new after s

namespace Commit

/-- The commit, once one more step has been made. -/
def snoc (c : Commit p start trace s key b) (h : Step p s l s') :
    Commit p start (trace ++ [l]) s' key b :=
  { c with
    after := c.after ++ [l]
    trace_eq := by
      have htrace := c.trace_eq
      simp [htrace]
    run_new := c.run_new.snoc h }

/-- The request was under way while another state was published and the bindings were pruned by it, and
no refresh has got that far since. -/
def IsLate (strategy : Strategy) (c : Commit p start trace s key b) : Prop :=
  (versionsOf strategy c.before).length < (versionsOf strategy trace).length ∧
    SpansRefresh c.during ∧ ∀ l ∈ c.after, l.applies = false

/-- Either the binding is to a backend that is selected, or a pass is being applied, or the commit came
late. -/
def Accounts (strategy : Strategy) (c : Commit p start trace s key b) : Prop :=
  s.router.state.Selects b.endpoint ∨ (∃ i, (s.calls i).isApplying = true) ∨ c.IsLate strategy

/-- A binding that is still there after one more step is accounted for. -/
theorem Accounts.snoc {c : Commit p start trace s key b} (hc : c.Accounts strategy)
    (hs : s.IsSerial) (h : Step p s l s') (hb : s'.router.bindings.get? key = some b) :
    (c.snoc h).Accounts strategy := by
  rcases h.apply_cases hs with ⟨i, next, -, -, happlying, -⟩ | ⟨i, -, -, -, hpruned⟩ |
    ⟨hquiet, hstate, hkeeps⟩
  · exact Or.inr (Or.inl ⟨i, happlying⟩)
  · exact Or.inl (hpruned key b hb)
  · rcases hc with hselects | ⟨i, happlying⟩ | ⟨hlt, hspans, hafter⟩
    · left
      rw [hstate]
      exact hselects
    · exact Or.inr (Or.inl ⟨i, hkeeps i happlying⟩)
    · refine Or.inr (Or.inr ⟨?_, hspans, ?_⟩)
      · exact Nat.lt_of_lt_of_le hlt (versionsOf_length_le strategy trace [l])
      · intro x hx
        rcases List.mem_append.1 hx with hx | hx
        · exact hafter x hx
        · rw [List.mem_singleton.1 hx]
          exact hquiet

end Commit

/-- A step binds nobody, unless it is how a request concludes. -/
theorem Step.get?_bindings (h : Step p s l s') (hb : s'.router.bindings.get? key = some b) :
    s.router.bindings.get? key = some b ∨
      ∃ j e, l = .visit j .conclude ∧ (s.visits j).errand? = some e ∧
        (s.visits j).Commits s.now e.snapshot key b := by
  cases h with
  | @call i c c' act r hc h =>
    left
    rcases h.apply_cases with ⟨next, current, -, -, -, rfl⟩ | ⟨-, -, rfl⟩ | ⟨-, -, -, -, hsame⟩
    · rw [router_moveCall, Router.bindings_publish] at hb
      exact hb
    · -- pruning binds nobody
      rcases Router.get?_prune s.router.affinity s.router.bindings s.now s.router.state.rule key with
        hkept | hdropped
      · exact hkept.symm.trans hb
      · exact absurd (hdropped.symm.trans hb) nofun
    · rw [router_moveCall, hsame] at hb
      exact hb
  | @visit j v v' act r hv h =>
    subst hv
    rcases h.get?_bindings hb with hold | ⟨rfl, e, he, hcommits⟩
    · exact Or.inl hold
    · exact Or.inr ⟨j, e, rfl, he, hcommits⟩
  | tick => exact Or.inl hb

/-- Every binding was committed by a request, and is accounted for. -/
theorem IsIdle.exists_commit (h : start.IsIdle) (hempty : start.router.bindings = Bindings.empty)
    (hrun : Run p start trace s) (hb : s.router.bindings.get? key = some b) :
    ∃ c : Commit p start trace s key b, c.Accounts start.router.strategy := by
  induction hrun with
  | nil =>
    rw [hempty, Bindings.get?_empty] at hb
    cases hb
  | @snoc trace l s s' hrun hstep ih =>
    have hserial := h.isSerial.run hrun
    rcases hstep.get?_bindings hb with hold | ⟨j, e, rfl, he, hcommits⟩
    · obtain ⟨c, hc⟩ := ih hold
      exact ⟨c.snoc hstep, hc.snoc hserial hstep hb⟩
    · -- a request commits in this very step, and what it goes by may have been replaced meanwhile
      have hcontains := hcommits.contains (h.tracks_run hrun j) he
      obtain ⟨before, during, rfl, hmeanwhile⟩ := h.meanwhile_run hrun he
      refine ⟨⟨j, e.snapshot, before, during, [], s, s', rfl, hrun, hcommits, hstep, hb, .nil⟩, ?_⟩
      rcases hstep.apply_cases hserial with ⟨_, _, hl, -⟩ | ⟨_, hl, -⟩ | ⟨-, hstate, hkeeps⟩
      · cases hl
      · cases hl
      · rcases hmeanwhile with hsame | ⟨hlt, ⟨i, -, -, happlying⟩ | hspans⟩
        · left
          rw [hstate, hsame]
          exact ⟨e.rule, e.rule_eq, hcontains⟩
        · exact Or.inr (Or.inl ⟨i, hkeeps i happlying⟩)
        · refine Or.inr (Or.inr ⟨?_, hspans, nofun⟩)
          rw [List.append_assoc, List.singleton_append] at hlt
          have hbefore := versionsOf_length_le start.router.strategy before
            [.visit j (.load e.snapshot)]
          have hafter := versionsOf_length_le start.router.strategy
            (before ++ .visit j (.load e.snapshot) :: during) [.visit j .conclude]
          exact Nat.lt_of_le_of_lt hbefore (Nat.lt_of_lt_of_le hlt hafter)

/-- **Dangling bindings are committed late.**  In any order of refreshes and requests, once no pass is
being applied: the published state is the one that was published last.  A binding to a backend that it
does not select was committed by a request that had loaded its own state before that one was published,
and from loading to committing spanned a whole refresh; no refresh has published or pruned since.  So if
no request spans a refresh, every binding is to a backend that is selected. -/
theorem dangling_committed_late (hstart : start.IsIdle)
    (hempty : start.router.bindings = Bindings.empty) (hrun : Run p start trace s)
    (happlied : ∀ i, (s.calls i).isApplying = false) :
    s.router.state = (versionsOf start.router.strategy trace).getLastD {} ∧
    (∀ key b, s.router.bindings.get? key = some b → ¬ s.router.state.Selects b.endpoint →
      ∃ c : Commit p start trace s key b,
        (versionsOf start.router.strategy c.before).length <
          (versionsOf start.router.strategy trace).length ∧
        SpansRefresh c.during ∧ ∀ l ∈ c.after, l.applies = false) ∧
    ((∀ j snapshot before during after,
        trace = before ++ .visit j (.load snapshot) :: during ++ .visit j .conclude :: after →
        ¬ SpansRefresh during) →
      ∀ key b, s.router.bindings.get? key = some b → s.router.state.Selects b.endpoint) := by
  have hlate : ∀ key b, s.router.bindings.get? key = some b →
      s.router.state.Selects b.endpoint ∨
        ∃ c : Commit p start trace s key b, c.IsLate start.router.strategy := by
    intro key b hb
    obtain ⟨c, hselects | ⟨i, happlying⟩ | hc⟩ := hstart.exists_commit hempty hrun hb
    · exact Or.inl hselects
    · rw [happlied i] at happlying
      cases happlying
    · exact Or.inr ⟨c, hc⟩
  refine ⟨(hstart.isAccounted_run hrun).state_eq_getLastD, ?_, ?_⟩
  · intro key b hb hdangling
    exact (hlate key b hb).resolve_left hdangling
  · intro hnone key b hb
    rcases hlate key b hb with hselects | ⟨c, -, hspans, -⟩
    · exact hselects
    · exact absurd hspans (hnone _ _ _ _ _ c.trace_eq)

end Commits

/-- A router that knows its clients by their addresses. -/
def remembering : Router := { rotating with affinity := ⟨[.sourceAddress], none⟩ }

/-- Where a client sends from. -/
def somewhere : Net.SocketAddr := .v4 ⟨192, 0, 2, 7⟩ 50000

theorem clientKey_somewhere :
    remembering.affinity.clientKey rootRequest.headers somewhere =
      some "source-address=192.0.2.7" := by
  decide +kernel

/-- A client without a binding sends a request, and while that is under way a pass clears the rule. -/
theorem run_cleared :
    ∃ trace s key b, Run {} (idle remembering) trace s ∧
      s.router.bindings.get? key = some b ∧ s.router.state.rule = none ∧
      ∀ i, (s.calls i).isApplying = false := by
  have h1 := (Run.nil (p := {})).snoc (.call (s := idle remembering) (i := 0) rfl (.takeTurn rfl))
  have h2 := h1.snoc (.call (i := 0) rfl (.collect [] oneBackend))
  have h3 := h2.snoc (.call (i := 0) rfl .read)
  have h4 := h3.snoc (.call (i := 0) rfl .publish)
  have h5 := h4.snoc (.call (i := 0) rfl .count)
  have h6 := h5.snoc (.call (i := 0) rfl .prune)
  have h7 := h6.snoc (.call (i := 0) rfl .leave)
  have h8 := h7.snoc (.visit (j := 0) rfl (.load rootRequest somewhere rfl))
  have h9 := h8.snoc (.visit (j := 0) rfl (.miss clientKey_somewhere rfl))
  have h10 := h9.snoc (.visit (j := 0) rfl .pick)
  have h11 := h10.snoc (.visit (j := 0) rfl .note)
  have h12 := h11.snoc (.visit (j := 0) rfl (.prepare outgoing_root))
  have h13 := h12.snoc (.visit (j := 0) rfl .send)
  -- the second pass clears the rule, and there is nothing to prune yet
  have h14 := h13.snoc (.call (i := 1) rfl (.takeTurn rfl))
  have h15 := h14.snoc (.call (i := 1) rfl (.collect [] []))
  have h16 := h15.snoc (.call (i := 1) rfl .read)
  have h17 := h16.snoc (.call (i := 1) rfl .publish)
  have h18 := h17.snoc (.call (i := 1) rfl .count)
  have h19 := h18.snoc (.call (i := 1) rfl .prune)
  have h20 := h19.snoc (.call (i := 1) rfl .leave)
  have h21 := h20.snoc (.visit (j := 0) rfl (.reply { status := 200 }))
  have h22 := h21.snoc (.visit (j := 0) rfl .conclude)
  have hfound := (Affinity.get?_commit_of_isNew
    (r := ⟨{ scheme := "http", authority := "a:8080" }, .miss⟩) rfl Bindings.empty 0
    "source-address=192.0.2.7" _).trans (if_pos rfl)
  refine ⟨_, _, _, _, h22, hfound, rfl, ?_⟩
  intro i
  rcases i with _ | _ | i
  all_goals rfl

/-- The binding of that client is to no backend that is selected, and it was committed by a request that
spans a refresh. -/
theorem dangling_committed_late_cleared :
    ∃ trace s key b, Run {} (idle remembering) trace s ∧
      s.router.bindings.get? key = some b ∧ s.router.state.rule = none ∧
      ∃ c : Commit {} (idle remembering) trace s key b, SpansRefresh c.during := by
  obtain ⟨trace, s, key, b, hrun, hb, hcleared, happlied⟩ := run_cleared
  obtain ⟨-, hdangling, -⟩ := dangling_committed_late (isIdle_idle rfl rfl) rfl hrun happlied
  obtain ⟨c, -, hspans, -⟩ := hdangling key b hb (by
    rintro ⟨rule, hrule, -⟩
    rw [hcleared] at hrule
    cases hrule)
  exact ⟨trace, s, key, b, hrun, hb, hcleared, c, hspans⟩

end System

end Switchyard
