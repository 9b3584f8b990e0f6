/-
What requests have counted by the time they are answered.

A tally that only steps of requests move keeps a ledger: its entries are what the tally counts, and those
of one request are what is due at its phase (`Books.run`).  When all requests are absent or closed, phases
say no more than records do, and the tally counts what follows from the answers (`perm_of_answers`).  The
lookup of a request that has loaded a rule is counted once (`lookups_counted`), and so is a backend
that it has called, however often (`backends_counted`).
-/
import Switchyard.Proofs.Concurrent.Admitted
import Switchyard.Proofs.Metrics.Ledger

namespace Switchyard

/-! ## Backends and outcomes -/

/-- The name of the backend that a request is sent to. -/
def Http.Outgoing.backend (out : Http.Outgoing) : String :=
  String.ofList (out.uri.scheme.getD []) ++ "://" ++ String.ofList out.uri.authority

theorem Http.Outgoing.backend_eq {out : Http.Outgoing} {e : Endpoint} (h : out.GoesTo e) :
    out.backend = e.backend := by
  rw [backend, h.1, h.2, Endpoint.backend]
  simp

namespace Proxy

/-- The request ended in an error of the backend: it gave no answer, or one that reports an error of its
own. -/
def hasFailed : Except ProxyError Http.Response → Bool
  | .ok response => response.isServerError
  | .error (.backendFailed _ _) => true
  | .error _ => false

/-- Concluding a request counts its backend, and a failure exactly if the request ends in one. -/
theorem metrics_conclude (r : Router) (q : Prepared) (result : Except TransportError Http.Response)
    (now : Nat) :
    (conclude r q result now).2.1.metrics =
      r.metrics.recordBackend q.backend (!hasFailed (conclude r q result now).1) := by
  cases result with
  | ok response => rfl
  | error source => rfl

end Proxy

/-- The backend that a request has called, if it has called one. -/
def Visit.Record.called (record : Visit.Record) : Option String :=
  record.sent.head?.map Http.Outgoing.backend

/-- The request has loaded a state with a rule. -/
def Visit.Record.hasRule (record : Visit.Record) : Bool := record.loaded.any (·.rule.isSome)

/-! ## What steps count -/

namespace Call

/-- The pass that is published and still to be counted. -/
def uncounted : Call → Option Selection
  | published next => some next
  | _ => none

/-- A step of a call publishes a pass, or counts the one that is published, or leaves alone all that is
counted. -/
theorem Step.metrics_cases {now : Nat} {r r' : Router} {c c' : Call} {act : Act}
    (h : Step now r c act r' c') :
    (∃ next current, c = merging next current ∧ act = .publish next ∧ c' = published next ∧
      r' = r.publish (current.transition next r.strategy)) ∨
    (∃ next, c = published next ∧ act.applied = none ∧ c'.uncounted = none ∧
      r'.metrics = r.metrics.recordSelection next.admitted.length next.error.isSome ∧
      r'.installs = r.installs) ∨
    (act.applied = none ∧ c.uncounted = none ∧ c'.uncounted = none ∧ r'.metrics = r.metrics ∧
      r'.installs = r.installs) := by
  cases h with
  | publish => exact .inl ⟨_, _, rfl, rfl, rfl, rfl⟩
  | count => exact .inr (.inl ⟨_, rfl, rfl, rfl, rfl, rfl⟩)
  | takeTurn h =>
      obtain ⟨-, hr⟩ := Router.enter_writer h
      exact .inr (.inr ⟨rfl, rfl, rfl, by rw [hr], by rw [hr]⟩)
  | takePlace h =>
      obtain ⟨-, -, hr⟩ := Router.enter_waiter h
      exact .inr (.inr ⟨rfl, rfl, rfl, by rw [hr], by rw [hr]⟩)
  | _ => exact .inr (.inr ⟨rfl, rfl, rfl, rfl, rfl⟩)

end Call

/-- Publishing counts an installation, and counts it twice in the same way. -/
theorem Router.installs_publish (r : Router) (t : RouterState.Transition) :
    (r.publish t).installs = r.installs + t.isInstall.toNat ∧
      (r.publish t).metrics =
        { r.metrics with ruleInstalls := r.metrics.ruleInstalls + t.isInstall.toNat } := by
  cases t <;> exact ⟨rfl, rfl⟩

/-- Refreshes leave alone what requests count. -/
theorem Call.Step.tallies_eq {now : Nat} {r r' : Router} {c c' : Call} {act : Call.Act}
    (h : Call.Step now r c act r' c') :
    r'.metrics.requests = r.metrics.requests ∧
      r'.metrics.affinityLookups = r.metrics.affinityLookups ∧
      r'.metrics.backendRequests = r.metrics.backendRequests := by
  rcases h.metrics_cases with ⟨_, _, -, -, -, rfl⟩ | ⟨_, -, -, -, hmetrics, -⟩ | ⟨-, -, -, hmetrics, -⟩
  · rw [(Router.installs_publish r _).2]
    exact ⟨rfl, rfl, rfl⟩
  · rw [hmetrics]
    exact ⟨rfl, rfl, rfl⟩
  · rw [hmetrics]
    exact ⟨rfl, rfl, rfl⟩

namespace Visit.Step

variable {p : Proxy} {now : Nat} {r r' : Router} {v v' : Visit} {act : Act}

/-- Requests leave alone what refreshes count. -/
theorem passes_eq (h : Visit.Step p now r v act r' v') :
    r'.metrics.selectionEvents = r.metrics.selectionEvents ∧
      r'.metrics.selectionErrors = r.metrics.selectionErrors ∧
      r'.metrics.ruleInstalls = r.metrics.ruleInstalls ∧ r'.installs = r.installs := by
  cases h with
  | @conclude e q result =>
      have hinstalls : (Proxy.conclude r q result now).2.1.installs = r.installs := by
        cases result <;> rfl
      rw [Proxy.metrics_conclude]
      exact ⟨rfl, rfl, rfl, hinstalls⟩
  | _ => exact ⟨rfl, rfl, rfl, rfl⟩

/-- An answer counts its request, and nothing else does. -/
theorem requests_cases (h : Visit.Step p now r v act r' v') :
    (∃ method result, v = settled method result ∧ act = .answer result ∧ r'.metrics.requests =
      r.metrics.requests.bump [method, toString (Proxy.statusOf result)]) ∨
    ((∀ result, act ≠ .answer result) ∧ r'.metrics.requests = r.metrics.requests) := by
  cases h with
  | answer => exact .inl ⟨_, _, rfl, rfl, rfl⟩
  | conclude =>
      refine .inr ⟨by simp, ?_⟩
      rw [Proxy.metrics_conclude]
      rfl
  | _ => exact .inr ⟨by simp, rfl⟩

end Visit.Step

/-! ## Answers -/

/-- The answer that a step gives, and whose it is. -/
def Label.answer : Label → Option (Nat × Except ProxyError Http.Response)
  | .visit j (.answer result) => some (j, result)
  | _ => none

namespace System

/-- The answers that were given, in that order, and whose they were. -/
def answers (trace : List Label) : Ledger (Except ProxyError Http.Response) :=
  trace.filterMap Label.answer

theorem answers_snoc (trace : List Label) (l : Label) :
    answers (trace ++ [l]) = answers trace ++ l.answer.toList := filterMap_snoc Label.answer trace l

theorem of_answers (trace : List Label) (j : Nat) :
    Ledger.of (answers trace) j = (recordOf j trace).answered := by
  induction trace using List.reverseRecOn with
  | nil => rfl
  | append_singleton trace l ih =>
      rw [answers_snoc, recordOf_snoc]
      cases l with
      | call i act => simpa [Label.answer, Label.note] using ih
      | tick nanos => simpa [Label.answer, Label.note] using ih
      | visit k act =>
          by_cases hkj : k = j
          · subst hkj
            cases act with
            | answer result =>
                rw [Label.answer, Option.toList_some, Ledger.of_snoc_self, ih]
                simp [Label.note, Visit.Record.add]
            | _ => simpa [Label.answer, Label.note, Visit.Record.add] using ih
          · rw [Label.note, if_neg hkj, ← ih]
            cases act with
            | answer result => exact Ledger.of_snoc_of_ne _ _ hkj
            | _ => simp [Label.answer]

/-! ## Books -/

variable {p : Proxy} {start s s' : System} {trace : List Label} {tally : Metrics → Tally}
  {Due : Visit.Record → Visit → List (List String) → Prop}

/-- What refreshes leave alone and requests move only by what is due. -/
structure Books (p : Proxy) (tally : Metrics → Tally)
    (Due : Visit.Record → Visit → List (List String) → Prop) : Prop where
  start : ∀ record, Due record .absent []
  call : ∀ {now r c act r' c'}, Call.Step now r c act r' c' → tally r'.metrics = tally r.metrics
  visit : ∀ {now r v act r' v' record paid}, Visit.Step p now r v act r' v' →
    Visit.Tracks record v → Due record v paid →
      (tally r'.metrics = tally r.metrics ∧ Due (record.add act) v' paid) ∨
      ∃ labels, tally r'.metrics = (tally r.metrics).bump labels ∧
        Due (record.add act) v' (paid ++ [labels])

/-- The tally counts a ledger in which each request has paid what is due. -/
def Booked (tally : Metrics → Tally) (Due : Visit.Record → Visit → List (List String) → Prop)
    (trace : List Label) (s : System) : Prop :=
  ∃ book : Ledger (List String), (tally s.router.metrics).Counts (book.map (·.2)) ∧
    ∀ j, Due (recordOf j trace) (s.visits j) (Ledger.of book j)

/-- One request moves, and nothing is booked for any other. -/
theorem due_moveVisit {book book' : Ledger (List String)} {k : Nat} {act : Visit.Act} {v' : Visit}
    (r : Router) (hdue : ∀ j, Due (recordOf j trace) (s.visits j) (Ledger.of book j))
    (hbook : ∀ j, k ≠ j → Ledger.of book' j = Ledger.of book j)
    (hself : Due ((recordOf k trace).add act) v' (Ledger.of book' k)) (j : Nat) :
    Due (recordOf j (trace ++ [.visit k act])) ((s.moveVisit k r v').visits j)
      (Ledger.of book' j) := by
  rw [recordOf_snoc, Label.note]
  by_cases hkj : k = j
  · subst hkj
    rw [if_pos rfl, visits_moveVisit_self]
    exact hself
  · rw [if_neg hkj, visits_moveVisit_of_ne _ _ _ _ (Ne.symm hkj), hbook j hkj]
    exact hdue j

/-- One more step keeps the ledger. -/
theorem Books.step (hbooks : Books p tally Due) {l : Label} (h : Step p s l s')
    (htracks : ∀ j, Visit.Tracks (recordOf j trace) (s.visits j)) (hs : Booked tally Due trace s) :
    Booked tally Due (trace ++ [l]) s' := by
  obtain ⟨book, hcounts, hdue⟩ := hs
  -- calls and ticks are on no request's record, so only a visit changes what is due
  cases h with
  | call hc h =>
      refine ⟨book, ?_, fun j => ?_⟩
      · rw [router_moveCall, hbooks.call h]
        exact hcounts
      · rw [recordOf_snoc]
        exact hdue j
  | tick nanos =>
      refine ⟨book, hcounts, fun j => ?_⟩
      rw [recordOf_snoc]
      exact hdue j
  | @visit k v v' act r hv h =>
      subst hv
      rcases hbooks.visit h (htracks k) (hdue k) with ⟨hsame, hnext⟩ | ⟨labels, hbump, hnext⟩
      · refine ⟨book, ?_, due_moveVisit r hdue (fun _ _ => rfl) hnext⟩
        rw [router_moveVisit, hsame]
        exact hcounts
      · refine ⟨book ++ [(k, labels)], ?_, due_moveVisit r hdue ?_ ?_⟩
        · rw [router_moveVisit, hbump, List.map_append]
          exact hcounts.bump labels
        · exact fun j hkj => Ledger.of_snoc_of_ne book labels hkj
        · rw [Ledger.of_snoc_self]
          exact hnext

theorem Books.run (hbooks : Books p tally Due) (h : start.IsIdle)
    (hempty : tally start.router.metrics = []) (hrun : Run p start trace s) :
    Booked tally Due trace s := by
  induction hrun with
  | nil =>
      refine ⟨[], ?_, fun j => ?_⟩
      · rw [hempty]
        exact Tally.counts_nil
      · rw [h.visits j]
        exact hbooks.start _
  | snoc hrun hstep ih => exact hbooks.step hstep (h.tracks_run hrun) ih

theorem filterMap_one {α β : Type} (f : α → Option β) (x : α) : [x].filterMap f = (f x).toList := by
  cases hx : f x with
  | none => rw [List.filterMap_cons_none hx]; rfl
  | some y => rw [List.filterMap_cons_some hx]; rfl

/-- Books in which each request has what follows from its answers hold what follows from all answers. -/
theorem perm_of_answers {α : Type} {book : Ledger α} (trace : List Label)
    (due : Visit.Record → Except ProxyError Http.Response → Option α)
    (hbook : ∀ j, Ledger.of book j =
      (recordOf j trace).answered.filterMap (due (recordOf j trace))) :
    (book.map (·.2)).Perm ((answers trace).filterMap fun x => due (recordOf x.1 trace) x.2) := by
  -- the entries that follow from all answers are a ledger too, with the same entries for each request
  have hof : ∀ j, Ledger.of book j =
      Ledger.of ((answers trace).filterMap fun x =>
        (due (recordOf x.1 trace) x.2).map (x.1, ·)) j := by
    intro j
    rw [hbook j, Ledger.of_filterMap (fun j => due (recordOf j trace)), of_answers]
  refine ((Ledger.perm_of_of_eq hof).map Prod.snd).trans (List.Perm.of_eq ?_)
  rw [List.map_filterMap]
  congr 1
  funext x
  cases due (recordOf x.1 trace) x.2 <;> rfl

/-! ## Lookups -/

/-- The lookup of a client is counted between the choice of a backend and the first attempt. -/
def LookupsDue (record : Visit.Record) : Visit → List (List String) → Prop
  | .absent, paid | .looking _, paid | .dropping _ _, paid | .picking _ _, paid
  | .chosen _ _, paid => paid = []
  | .routed _ _, paid | .sending _ _ _, paid | .exchanging _ _ _, paid | .heard _ _ _, paid =>
    paid.length = 1
  | .settled _ _, paid | .closed, paid => paid.length = record.hasRule.toNat
  | .gone, _ => True

theorem hasRule_of_errand (e : Errand) {record : Visit.Record} (h : record.loaded = [e.snapshot]) :
    record.hasRule = true := by
  rw [Visit.Record.hasRule, h]
  simp [e.rule_eq]

theorem books_lookups : Books p Metrics.affinityLookups LookupsDue where
  start _ := rfl
  call h := h.tallies_eq.2.1
  visit := by
    intro now r v act r' v' record paid h htracks hdue
    cases h with
    | refuse request hnone =>
        -- without a rule there is no lookup
        obtain rfl : record = {} := htracks
        refine .inl ⟨rfl, ?_⟩
        rw [show paid = [] from hdue]
        simp [LookupsDue, Visit.Record.hasRule, Visit.Record.add, hnone]
    | load | unbound | hit | stale | miss | drop | pick | draw => exact .inl ⟨rfl, hdue⟩
    | @note e resolution =>
        refine .inr ⟨[resolution.outcome.label], rfl, ?_⟩
        rw [show paid = [] from hdue]
        rfl
    | prepare | send | reply | again | fail => exact .inl ⟨rfl, hdue⟩
    | @reject e resolution error hout =>
        -- the errand is forgotten from here on, but its state is on record
        obtain ⟨rfl, -⟩ := htracks
        refine .inl ⟨rfl, ?_⟩
        show paid.length = (Visit.Record.hasRule { loaded := [e.snapshot] }).toNat
        rw [hasRule_of_errand e rfl]
        exact hdue
    | overflow | leaveReading | leaveSending | leaveExchanging => exact .inl ⟨rfl, trivial⟩
    | @conclude e q result =>
        obtain ⟨hloaded, -⟩ := htracks
        refine .inl ⟨by rw [Proxy.metrics_conclude]; rfl, ?_⟩
        show paid.length = record.hasRule.toNat
        rw [hasRule_of_errand e hloaded]
        exact hdue
    | answer => exact .inl ⟨rfl, hdue⟩

/-! ## Backends -/

/-- What a request that ends like this has called, and how it ended. -/
def backendDue (record : Visit.Record) (result : Except ProxyError Http.Response) :
    Option (List String) :=
  record.called.map fun backend => [backend, Metrics.outcomeLabel (!Proxy.hasFailed result)]

/-- A backend is counted once the attempts have come to an end, if there were any. -/
def BackendsDue (record : Visit.Record) : Visit → List (List String) → Prop
  | .exchanging _ _ _, paid | .heard _ _ _, paid => paid = [] ∧ record.sent ≠ []
  | .settled _ result, paid => paid = (backendDue record result).toList
  | .closed, paid => paid = record.answered.filterMap (backendDue record)
  | _, paid => paid = []

theorem books_backends : Books p Metrics.backendRequests BackendsDue where
  start _ := rfl
  call h := h.tallies_eq.2.2
  visit := by
    intro now r v act r' v' record paid h htracks hdue
    cases h with
    | refuse request hnone =>
        obtain rfl : record = {} := htracks
        exact .inl ⟨rfl, hdue⟩
    | load | unbound | hit | stale | miss | drop | pick | draw | note => exact .inl ⟨rfl, hdue⟩
    | prepare | overflow | leaveReading | leaveSending => exact .inl ⟨rfl, hdue⟩
    | @reject e resolution error hout =>
        -- nothing was sent, so there is nothing to count
        obtain ⟨rfl, -⟩ := htracks
        exact .inl ⟨rfl, hdue⟩
    | @send e q made => exact .inl ⟨rfl, hdue, by simp [Visit.Record.add]⟩
    | reply | fail => exact .inl ⟨rfl, hdue⟩
    | again | leaveExchanging => exact .inl ⟨rfl, hdue.1⟩
    | @conclude e q result =>
        -- all attempts went to one backend, so any of them names the one that is counted
        obtain ⟨hpaid, hsent⟩ := hdue
        obtain ⟨-, -, -, -, hgoes⟩ := htracks
        obtain ⟨out, more, hout⟩ := List.exists_cons_of_ne_nil hsent
        have hcalled : record.called = some q.backend := by
          rw [Visit.Record.called, hout, Proxy.Prepared.backend]
          exact congrArg some (Http.Outgoing.backend_eq (hgoes out (hout ▸ List.mem_cons_self)))
        refine .inr ⟨_, by rw [Proxy.metrics_conclude]; rfl, ?_⟩
        show paid ++ [_] = (backendDue record _).toList
        rw [hpaid, backendDue, hcalled]
        rfl
    | @answer method result =>
        obtain ⟨snapshot, -, hanswered, -⟩ := htracks
        refine .inl ⟨rfl, ?_⟩
        have hone : (record.add (.answer result)).answered = [result] := by
          show record.answered ++ [result] = [result]
          rw [hanswered, List.nil_append]
        rw [show paid = (backendDue record result).toList from hdue]
        show _ = (record.add (.answer result)).answered.filterMap (backendDue record)
        rw [hone, filterMap_one]

/-! ## When all requests are closed -/

section Closed

variable (h : start.IsIdle) (hrun : Run p start trace s)
  (hvisits : ∀ j, s.visits j = .absent ∨ s.visits j = .closed)

include h hrun hvisits

/-- Each request that has loaded a rule has its lookup counted once, and no other has. -/
theorem lookups_counted (hempty : start.router.metrics.affinityLookups = []) :
    s.router.metrics.affinityLookups.total =
      (answers trace).countP fun x => (recordOf x.1 trace).hasRule := by
  obtain ⟨book, hcounts, hdue⟩ := books_lookups.run h hempty hrun
  -- which outcomes the lookups had is not asked, only how many there were
  have hbook : ∀ j, Ledger.of (book.map fun x => (x.1, ())) j =
      (recordOf j trace).answered.filterMap fun _ =>
        if (recordOf j trace).hasRule then some () else none := by
    intro j
    have hpaid := hdue j
    have htracks := h.tracks_run hrun j
    rw [Ledger.of_map (fun _ => ()), List.map_const']
    rcases hvisits j with hj | hj
    · rw [hj] at hpaid htracks
      rw [show Ledger.of book j = [] from hpaid, show recordOf j trace = {} from htracks]
      rfl
    · rw [hj] at hpaid htracks
      obtain ⟨snapshot, result, -, hanswered, -⟩ := htracks
      rw [show (Ledger.of book j).length = _ from hpaid, hanswered, filterMap_one]
      cases (recordOf j trace).hasRule <;> rfl
  have hperm := perm_of_answers trace
    (fun record _ => if record.hasRule then some () else none) hbook
  have hlength := hperm.length_eq
  rw [List.map_map, List.length_map, List.length_filterMap_eq_countP] at hlength
  rw [hcounts.total, List.length_map, hlength]
  apply List.countP_congr
  intro x _
  cases (recordOf x.1 trace).hasRule <;> simp

/-- Each request that has called a backend has it counted once, under how the request ended, and no other
has. -/
theorem backends_counted (hempty : start.router.metrics.backendRequests = []) :
    s.router.metrics.backendRequests.Counts
      ((answers trace).filterMap fun x => backendDue (recordOf x.1 trace) x.2) := by
  obtain ⟨book, hcounts, hdue⟩ := books_backends.run h hempty hrun
  refine hcounts.perm (perm_of_answers trace backendDue fun j => ?_)
  have hpaid := hdue j
  have htracks := h.tracks_run hrun j
  rcases hvisits j with hj | hj
  · rw [hj] at hpaid htracks
    rw [show Ledger.of book j = [] from hpaid, show recordOf j trace = {} from htracks]
    rfl
  · rw [hj] at hpaid
    exact hpaid

end Closed

end System

end Switchyard
