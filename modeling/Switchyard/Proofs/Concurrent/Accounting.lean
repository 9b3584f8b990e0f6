/-
The counters say what has happened.

`Serves` is a run in which it is known which request is which; every run from nobody having moved is one
(`exists_serves`).  Answers are counted as they are given (`Serves.requests_counted`).  A pass is counted a
step after it is published, so that counted passes are published ones once no application is under way
(`PassesBooked.counted`); installations are counted as they are published (`IsIdle.installs_run`).
`metrics_account` puts all counters together.
-/
import Switchyard.Proofs.Concurrent.Booking
import Switchyard.Service

namespace Switchyard

namespace Proxy

theorem status_reply (result : Except ProxyError Http.Response) :
    (reply result).status = statusOf result := by
  cases result <;> rfl

end Proxy

/-- A request that is closed has one answer, and no other request has any. -/
theorem Visit.Tracks.answered_cases {record : Visit.Record} {v : Visit} (h : Visit.Tracks record v) :
    (v = .closed ∧ ∃ result, record.answered = [result]) ∨ (v ≠ .closed ∧ record.answered = []) := by
  cases v with
  | absent | looking | dropping | picking =>
      subst h
      exact .inr ⟨by simp, rfl⟩
  | chosen | routed =>
      obtain ⟨rfl, -⟩ := h
      exact .inr ⟨by simp, rfl⟩
  | sending | exchanging | heard => exact .inr ⟨by simp, h.2.1⟩
  | settled | gone =>
      obtain ⟨_, -, hanswered, -⟩ := h
      exact .inr ⟨by simp, hanswered⟩
  | closed =>
      obtain ⟨_, result, -, hanswered, -⟩ := h
      exact .inl ⟨rfl, result, hanswered⟩

/-! ## Which request is which -/

/-- What is known of the request at its phase fits this one. -/
def Visit.BelongsTo (request : Http.Request) : Visit → Prop
  | looking e | dropping e _ | picking e _ | chosen e _ | routed e _ | sending e _ _
  | exchanging e _ _ | heard e _ _ => e.request = request
  | settled method _ => method = request.method
  | absent | closed | gone => True

namespace Visit.Step

variable {p : Proxy} {now : Nat} {r r' : Router} {v v' : Visit} {act : Act}

/-- Once it has come, a request stays the same. -/
theorem belongsTo (h : Visit.Step p now r v act r' v') (hv : v ≠ .absent) {request : Http.Request}
    (hown : v.BelongsTo request) : v'.BelongsTo request := by
  cases h with
  | refuse | load => exact absurd rfl hv
  | reject | conclude => exact congrArg Http.Request.method hown
  | answer | overflow | leaveReading | leaveSending | leaveExchanging => trivial
  | _ => exact hown

theorem exists_belongsTo (h : Visit.Step p now r .absent act r' v') :
    ∃ request, v'.BelongsTo request := by
  cases h with
  | refuse request => exact ⟨request, rfl⟩
  | load request => exact ⟨request, rfl⟩

theorem ne_absent (h : Visit.Step p now r v act r' v') : v' ≠ .absent := by
  cases h <;> simp

end Visit.Step

namespace System

variable {p : Proxy} {start s s' : System} {trace : List Label} {requests : Nat → Http.Request}

/-- Steps in a row, made for these requests. -/
inductive Serves (p : Proxy) (requests : Nat → Http.Request) (start : System) :
    List Label → System → Prop
  | nil : Serves p requests start [] start
  | snoc {trace : List Label} {l : Label} {s s' : System} (h : Serves p requests start trace s)
      (hstep : Step p s l s')
      (hown : ∀ j act, l = .visit j act → (s'.visits j).BelongsTo (requests j)) :
      Serves p requests start (trace ++ [l]) s'

theorem Serves.run (h : Serves p requests start trace s) : Run p start trace s := by
  induction h with
  | nil => exact .nil
  | snoc _ hstep _ ih => exact ih.snoc hstep

theorem Serves.belongsTo (hstart : start.IsIdle) (h : Serves p requests start trace s) (j : Nat) :
    (s.visits j).BelongsTo (requests j) := by
  induction h with
  | nil =>
      rw [hstart.visits j]
      trivial
  | @snoc _ l s s' _ hstep hown ih =>
      cases hstep with
      | call => exact ih
      | tick => exact ih
      | @visit k v v' act r hv h =>
          by_cases hjk : j = k
          · subst hjk
            exact hown j act rfl
          · rw [visits_moveVisit_of_ne _ _ _ _ hjk]
            exact ih

/-- Who has come is never absent again. -/
theorem Step.ne_absent {l : Label} (h : Step p s l s') {j : Nat} (hj : s.visits j ≠ .absent) :
    s'.visits j ≠ .absent := by
  cases h with
  | call => exact hj
  | tick => exact hj
  | @visit k v v' act r hv h =>
      by_cases hjk : j = k
      · rw [hjk, visits_moveVisit_self]
        exact h.ne_absent
      · rw [visits_moveVisit_of_ne _ _ _ _ hjk]
        exact hj

/-- Nothing is said of requests that have not come. -/
theorem Serves.congr (h : Serves p requests start trace s) {requests' : Nat → Http.Request}
    (hsame : ∀ j, s.visits j ≠ .absent → requests' j = requests j) :
    Serves p requests' start trace s := by
  induction h with
  | nil => exact .nil
  | @snoc _ l s s' _ hstep hown ih =>
      refine (ih fun j hj => hsame j (hstep.ne_absent hj)).snoc hstep fun j act hl => ?_
      -- whoever this step is about has come by its end, so both say the same of it
      have hcome : s'.visits j ≠ .absent := by
        subst hl
        cases hstep with
        | visit hv h =>
            rw [visits_moveVisit_self]
            exact h.ne_absent
      rw [hsame j hcome]
      exact hown j act hl

/-- In every run it can be told which request is which. -/
theorem exists_serves (hstart : start.IsIdle) (hrun : Run p start trace s) :
    ∃ requests, Serves p requests start trace s := by
  induction hrun with
  | nil => exact ⟨fun _ => ⟨"", ⟨none, [], []⟩, [], []⟩, .nil⟩
  | @snoc _ l s s' _ hstep ih =>
      obtain ⟨requests, hserves⟩ := ih
      cases hstep with
      | call hc h => exact ⟨requests, hserves.snoc (.call hc h) nofun⟩
      | tick nanos => exact ⟨requests, hserves.snoc (.tick nanos) nofun⟩
      | @visit k v v' act r hv h =>
          by_cases habsent : v = .absent
          · -- the request has come in this step
            subst habsent
            obtain ⟨request, hrequest⟩ := h.exists_belongsTo
            refine ⟨Function.update requests k request,
              (hserves.congr fun j hj => ?_).snoc (.visit hv h) ?_⟩
            · refine Function.update_of_ne ?_ _ _
              rintro rfl
              exact hj hv
            · rintro j _ ⟨⟩
              rw [visits_moveVisit_self, Function.update_self]
              exact hrequest
          · -- the request is known already, and stays what it was
            refine ⟨requests, hserves.snoc (.visit hv h) ?_⟩
            rintro j _ ⟨⟩
            rw [visits_moveVisit_self]
            have hown := hserves.belongsTo hstart k
            rw [hv] at hown
            exact h.belongsTo habsent hown

/-! ## Requests -/

/-- Each answer is counted under the method of its request and the status of the reply. -/
theorem Serves.requests_counted (hstart : start.IsIdle)
    (hempty : start.router.metrics.requests = []) (h : Serves p requests start trace s) :
    s.router.metrics.requests.Counts ((answers trace).map fun x =>
      [(requests x.1).method, toString (Proxy.reply x.2).status]) := by
  induction h with
  | nil =>
      rw [hempty]
      exact Tally.counts_nil
  | @snoc trace l s s' hserves hstep hown ih =>
      rw [answers_snoc, List.map_append]
      cases hstep with
      | call hc h =>
          rw [router_moveCall, h.tallies_eq.1]
          simpa [Label.answer] using ih
      | tick nanos => simpa [Label.answer] using ih
      | @visit k v v' act r hv h =>
          rw [router_moveVisit]
          rcases h.requests_cases with ⟨method, result, rfl, rfl, hbump⟩ | ⟨hnone, hsame⟩
          · -- a settled request keeps nothing but its method, which is the one it came with
            have hmethod : method = (requests k).method := by
              have hbelongs := hserves.belongsTo hstart k
              rw [hv] at hbelongs
              exact hbelongs
            rw [hbump, hmethod, ← Proxy.status_reply]
            exact ih.bump _
          · have hanswer : (Label.visit k act).answer = none := by
              cases act with
              | answer result => exact absurd rfl (hnone result)
              | _ => rfl
            rw [hsame, hanswer]
            simpa using ih

/-- Each request that is closed has one answer, and no other request has any. -/
theorem IsIdle.answers_run (hstart : start.IsIdle) (hrun : Run p start trace s) :
    ((answers trace).map Prod.fst).Nodup ∧
      ∀ j, j ∈ (answers trace).map Prod.fst ↔ s.visits j = .closed := by
  -- records tell answers apart by request, so both parts are about their lengths
  have hcount : ∀ j, ((answers trace).map Prod.fst).count j = (recordOf j trace).answered.length :=
    fun j => by rw [Ledger.count_fst, of_answers]
  constructor
  · rw [List.nodup_iff_count_le_one]
    intro j
    rw [hcount j]
    rcases (hstart.tracks_run hrun j).answered_cases with ⟨-, result, hone⟩ | ⟨-, hnone⟩
    · rw [hone]
      rfl
    · rw [hnone]
      exact Nat.zero_le 1
  · intro j
    rw [← List.count_pos_iff, hcount j]
    rcases (hstart.tracks_run hrun j).answered_cases with ⟨hclosed, result, hone⟩ | ⟨hopen, hnone⟩
    · rw [hone]
      exact iff_of_true Nat.one_pos hclosed
    · rw [hnone]
      exact iff_of_false (Nat.lt_irrefl 0) hopen

/-! ## Passes -/

/-- The passes that a call has published are those it has counted, and perhaps one more. -/
def Owes (published counted : List Selection) (c : Call) : Prop :=
  published = counted ++ c.uncounted.toList

/-- The counters of passes count a ledger in which each call has counted what it has published. -/
def PassesBooked (trace : List Label) (s : System) : Prop :=
  ∃ book : Ledger Selection, s.router.metrics.selectionEvents = book.length ∧
    s.router.metrics.selectionErrors = book.countP (·.2.error.isSome) ∧
    ∀ i, Owes (Ledger.of (applications trace) i) (Ledger.of book i) (s.calls i)

theorem IsIdle.passesBooked (hstart : start.IsIdle) (hmetrics : start.router.metrics = {}) :
    PassesBooked [] start := by
  refine ⟨[], by rw [hmetrics]; rfl, by rw [hmetrics]; rfl, fun i => ?_⟩
  rw [hstart.calls i]
  rfl

/-- One call moves, and no other publishes or counts anything. -/
theorem owes_moveCall {published published' counted counted' : Ledger Selection} {i : Nat} {c' : Call}
    (r : Router)
    (howes : ∀ j, Owes (Ledger.of published j) (Ledger.of counted j) (s.calls j))
    (hpublished : ∀ j, i ≠ j → Ledger.of published' j = Ledger.of published j)
    (hcounted : ∀ j, i ≠ j → Ledger.of counted' j = Ledger.of counted j)
    (hself : Owes (Ledger.of published' i) (Ledger.of counted' i) c') (j : Nat) :
    Owes (Ledger.of published' j) (Ledger.of counted' j) ((s.moveCall i r c').calls j) := by
  by_cases hij : i = j
  · subst hij
    rw [calls_moveCall_self]
    exact hself
  · rw [calls_moveCall_of_ne _ _ _ _ (Ne.symm hij), hpublished j hij, hcounted j hij]
    exact howes j

theorem PassesBooked.call (hs : PassesBooked trace s) {i : Nat} {act : Call.Act} {r : Router}
    {c' : Call} (h : Call.Step s.now s.router (s.calls i) act r c') :
    PassesBooked (trace ++ [.call i act]) (s.moveCall i r c') := by
  obtain ⟨book, hevents, herrors, howes⟩ := hs
  have hi := howes i
  rcases h.metrics_cases with ⟨next, current, hc, rfl, rfl, rfl⟩ |
    ⟨next, hc, hact, hc', hmetrics, -⟩ | ⟨hact, hc, hc', hmetrics, -⟩
  · -- the pass is published and not counted
    have happlications : applications (trace ++ [.call i (.publish next)]) =
        applications trace ++ [(i, next)] := applications_snoc trace _
    rw [Owes, hc] at hi
    refine ⟨book, ?_, ?_, ?_⟩
    · rw [router_moveCall, (Router.installs_publish _ _).2]
      exact hevents
    · rw [router_moveCall, (Router.installs_publish _ _).2]
      exact herrors
    · rw [happlications]
      refine owes_moveCall _ howes (fun j hij => Ledger.of_snoc_of_ne _ _ hij) (fun _ _ => rfl) ?_
      rw [Ledger.of_snoc_self, hi]
      simp [Owes, Call.uncounted]
  · -- the pass that is owed is counted
    have happlications : applications (trace ++ [.call i act]) = applications trace :=
      applications_of_none trace (by rw [Label.application, hact]; rfl)
    rw [Owes, hc] at hi
    refine ⟨book ++ [(i, next)], ?_, ?_, ?_⟩
    · rw [router_moveCall, hmetrics, List.length_append]
      exact congrArg (· + 1) hevents
    · rw [router_moveCall, hmetrics, List.countP_append, ← herrors]
      cases herror : next.error.isSome <;> simp [Metrics.recordSelection, herror]
    · rw [happlications]
      refine owes_moveCall _ howes (fun _ _ => rfl) (fun j hij => Ledger.of_snoc_of_ne _ _ hij) ?_
      rw [Ledger.of_snoc_self, hi, Owes, hc']
      simp [Call.uncounted]
  · -- nothing is published and nothing is counted
    have happlications : applications (trace ++ [.call i act]) = applications trace :=
      applications_of_none trace (by rw [Label.application, hact]; rfl)
    rw [Owes, hc] at hi
    refine ⟨book, ?_, ?_, ?_⟩
    · rw [router_moveCall, hmetrics]
      exact hevents
    · rw [router_moveCall, hmetrics]
      exact herrors
    · rw [happlications]
      refine owes_moveCall _ howes (fun _ _ => rfl) (fun _ _ => rfl) ?_
      rw [Owes, hc']
      exact hi

theorem IsIdle.passesBooked_run (hstart : start.IsIdle) (hmetrics : start.router.metrics = {})
    (hrun : Run p start trace s) : PassesBooked trace s := by
  induction hrun with
  | nil => exact hstart.passesBooked hmetrics
  | @snoc trace l s s' _ hstep ih =>
      cases hstep with
      | call hc h =>
          subst hc
          exact ih.call h
      | visit hv h =>
          obtain ⟨book, hevents, herrors, howes⟩ := ih
          obtain ⟨hsameEvents, hsameErrors, -⟩ := h.passes_eq
          refine ⟨book, hsameEvents.trans hevents, hsameErrors.trans herrors, fun i => ?_⟩
          rw [applications_of_none trace rfl]
          exact howes i
      | tick nanos =>
          obtain ⟨book, hevents, herrors, howes⟩ := ih
          refine ⟨book, hevents, herrors, fun i => ?_⟩
          rw [applications_of_none trace rfl]
          exact howes i

/-- With no application under way, the counted passes are the published ones. -/
theorem PassesBooked.counted (hs : PassesBooked trace s)
    (hcalls : ∀ i, (s.calls i).isApplying = false) :
    s.router.metrics.selectionEvents = (applications trace).length ∧
      s.router.metrics.selectionErrors = (applications trace).countP (·.2.error.isSome) := by
  obtain ⟨book, hevents, herrors, howes⟩ := hs
  have hperm : book.Perm (applications trace) := by
    apply Ledger.perm_of_of_eq
    intro i
    -- only a call that is still applying its pass can owe it
    have huncounted : (s.calls i).uncounted = none := by
      have happlying := hcalls i
      cases hc : s.calls i with
      | published next =>
          rw [hc] at happlying
          cases happlying
      | _ => rfl
    have hi := howes i
    rw [Owes, huncounted] at hi
    simpa using hi.symm
  exact ⟨hevents.trans hperm.length_eq, herrors.trans (hperm.countP_eq _)⟩

/-! ## Installations -/

/-- Both counts of installations are how many of the applied passes install a rule, one after the
other. -/
theorem IsIdle.installs_run (hstart : start.IsIdle) (hmetrics : start.router.metrics.ruleInstalls = 0)
    (hinstalls : start.router.installs = 0) (hrun : Run p start trace s) :
    s.router.metrics.ruleInstalls = s.router.installs ∧
      s.router.installs = RouterState.installs start.router.strategy {}
        ((applications trace).map Prod.snd) := by
  induction hrun with
  | nil =>
      rw [hmetrics, hinstalls]
      exact ⟨rfl, rfl⟩
  | @snoc trace l s s' hrun hstep ih =>
      obtain ⟨hsame, hcount⟩ := ih
      cases hstep with
      | @call i c c' act r hc h =>
          subst hc
          rw [router_moveCall]
          rcases h.metrics_cases with ⟨next, current, hc, rfl, rfl, rfl⟩ |
            ⟨next, -, hact, -, hnext, hquiet⟩ | ⟨hact, -, -, hnext, hquiet⟩
          · -- what the call has read is what the passes before it have made
            have hserial := hstart.isSerial.run hrun
            have haccounted := hstart.isAccounted_run hrun
            obtain ⟨hmore, hmetrics'⟩ := s.router.installs_publish
              (current.transition next s.router.strategy)
            have happlications : applications (trace ++ [.call i (.publish next)]) =
                applications trace ++ [(i, next)] := applications_snoc trace _
            rw [hmore, hmetrics', hsame, happlications]
            refine ⟨rfl, ?_⟩
            rw [List.map_append, List.map_singleton, RouterState.installs_snoc, ← haccounted.state,
              hcount, hserial.current i next current hc, haccounted.strategy_eq]
          · rw [hnext, hquiet, applications_of_none trace (by rw [Label.application, hact]; rfl)]
            exact ⟨hsame, hcount⟩
          · rw [hnext, hquiet, applications_of_none trace (by rw [Label.application, hact]; rfl)]
            exact ⟨hsame, hcount⟩
      | visit hv h =>
          obtain ⟨-, -, hrules, hquiet⟩ := h.passes_eq
          rw [router_moveVisit, hrules, hquiet, applications_of_none trace rfl]
          exact ⟨hsame, hcount⟩
      | tick nanos =>
          rw [applications_of_none trace rfl]
          exact ⟨hsame, hcount⟩

/-! ## All counters -/

/-- **The counters say what has happened.**  Take any run, of refreshes and requests in any order, that
starts with nothing counted and ends with all requests closed and no application under way.  Each request
has one answer, and is counted under its method and the status that its client is answered with.  Lookups
are the requests that have loaded a rule.  Each request that has called its backend at least once counts
once, as a failure exactly if it ended in an error of the backend.  Passes are those that were applied, and
failed ones those with an error; and both counts of installations are how many passes installed a rule.  It
can be told of every run which request is which. -/
theorem metrics_account (hstart : start.IsIdle) (hmetrics : start.router.metrics = {})
    (hinstalls : start.router.installs = 0) (hserves : Serves p requests start trace s)
    (hvisits : ∀ j, s.visits j = .absent ∨ s.visits j = .closed)
    (hcalls : ∀ i, (s.calls i).isApplying = false) :
    (((answers trace).map Prod.fst).Nodup ∧
      ∀ j, j ∈ (answers trace).map Prod.fst ↔ s.visits j = .closed) ∧
    (s.router.metrics.requests.total = (answers trace).length ∧
      ∀ labels, s.router.metrics.requests.count labels = (answers trace).countP fun x =>
        [(requests x.1).method, toString (Proxy.reply x.2).status] = labels) ∧
    s.router.metrics.affinityLookups.total =
      (answers trace).countP (fun x => (recordOf x.1 trace).hasRule) ∧
    (s.router.metrics.backendRequests.total =
        (answers trace).countP (fun x => !(recordOf x.1 trace).sent.isEmpty) ∧
      ∀ labels, s.router.metrics.backendRequests.count labels = (answers trace).countP fun x =>
        backendDue (recordOf x.1 trace) x.2 = some labels) ∧
    (s.router.metrics.selectionEvents = (applications trace).length ∧
      s.router.metrics.selectionErrors = (applications trace).countP (·.2.error.isSome)) ∧
    (s.router.metrics.ruleInstalls = s.router.installs ∧
      s.router.installs = RouterState.installs start.router.strategy {}
        ((applications trace).map Prod.snd)) ∧
    ∀ trace s, Run p start trace s → ∃ requests, Serves p requests start trace s := by
  have hrun := hserves.run
  have hrequests := hserves.requests_counted hstart (by rw [hmetrics])
  have hbackends := backends_counted hstart hrun hvisits (by rw [hmetrics])
  refine ⟨hstart.answers_run hrun, ⟨?_, fun labels => ?_⟩,
    lookups_counted hstart hrun hvisits (by rw [hmetrics]), ⟨?_, fun labels => ?_⟩,
    (hstart.passesBooked_run hmetrics hrun).counted hcalls,
    hstart.installs_run (by rw [hmetrics]) hinstalls hrun, fun _ _ => exists_serves hstart⟩
  · rw [hrequests.total, List.length_map]
  · rw [hrequests.count, List.count, List.countP_map]
    exact List.countP_congr fun x _ => by simp
  · rw [hbackends.total, List.length_filterMap_eq_countP]
    refine List.countP_congr fun x _ => ?_
    rw [backendDue, Visit.Record.called]
    cases (recordOf x.1 trace).sent <;> simp
  · rw [hbackends.count, List.count_filterMap]
    exact List.countP_congr fun x _ => by simp

/-- A request finds no rule; a pass installs one; another request calls its backend twice and is answered
with an error. -/
theorem run_served :
    ∃ trace s, Serves {} (fun _ => rootRequest) (idle rotating) trace s ∧
      (∀ j, s.visits j = .absent ∨ s.visits j = .closed) ∧ (∀ i, (s.calls i).isApplying = false) ∧
      answers trace = [(0, .error .noUsableBackends), (1, .ok { status := 500 })] ∧
      applications trace = [(0, onePass)] ∧
      (recordOf 0 trace).hasRule = false ∧ (recordOf 1 trace).hasRule = true ∧
      (recordOf 0 trace).sent = [] ∧ (recordOf 1 trace).sent = [rootOutgoing, rootOutgoing] := by
  have own : ∀ {j : Nat} {act : Visit.Act} {s : System}, (s.visits j).BelongsTo rootRequest →
      ∀ k act', Label.visit j act = .visit k act' → (s.visits k).BelongsTo rootRequest := by
    rintro j act s h k act' ⟨⟩
    exact h
  have h0 : Serves {} (fun _ => rootRequest) (idle rotating) [] (idle rotating) := .nil
  have h1 := h0.snoc (.visit (j := 0) rfl (.refuse rootRequest rfl)) (own rfl)
  have h2 := h1.snoc (.visit (j := 0) rfl .answer) (own trivial)
  have h3 := h2.snoc (.call (i := 0) rfl (.takeTurn rfl)) nofun
  have h4 := h3.snoc (.call (i := 0) rfl (.collect [] oneBackend)) nofun
  have h5 := h4.snoc (.call (i := 0) rfl .read) nofun
  have h6 := h5.snoc (.call (i := 0) rfl .publish) nofun
  have h7 := h6.snoc (.call (i := 0) rfl .count) nofun
  have h8 := h7.snoc (.call (i := 0) rfl .prune) nofun
  have h9 := h8.snoc (.call (i := 0) rfl .leave) nofun
  have h10 := h9.snoc (.visit (j := 1) rfl (.load rootRequest none rfl)) (own rfl)
  have h11 := h10.snoc (.visit (j := 1) rfl (.unbound rfl)) (own rfl)
  have h12 := h11.snoc (.visit (j := 1) rfl .pick) (own rfl)
  have h13 := h12.snoc (.visit (j := 1) rfl .note) (own rfl)
  have h14 := h13.snoc (.visit (j := 1) rfl (.prepare outgoing_root)) (own rfl)
  -- the first attempt fails, the second one is answered
  have h15 := h14.snoc (.visit (j := 1) rfl .send) (own rfl)
  have h16 := h15.snoc (.visit (j := 1) rfl (.again (.network "refused") rfl (by decide))) (own rfl)
  have h17 := h16.snoc (.visit (j := 1) rfl .send) (own rfl)
  have h18 := h17.snoc (.visit (j := 1) rfl (.reply { status := 500 })) (own rfl)
  have h19 := h18.snoc (.visit (j := 1) rfl .conclude) (own rfl)
  have h20 := h19.snoc (.visit (j := 1) rfl .answer) (own trivial)
  refine ⟨_, _, h20, ?_, ?_, rfl, rfl, rfl, rfl, rfl, rfl⟩
  · intro j
    rcases j with _ | _ | j
    · exact .inr rfl
    · exact .inr rfl
    · exact .inl rfl
  · intro i
    rcases i with _ | i <;> rfl

theorem metrics_account_served :
    ∃ trace s, Serves {} (fun _ => rootRequest) (idle rotating) trace s ∧
      s.router.metrics.requests.total = 2 ∧ s.router.metrics.requests.count ["GET", "500"] = 1 ∧
      s.router.metrics.affinityLookups.total = 1 ∧ s.router.metrics.backendRequests.total = 1 ∧
      s.router.metrics.backendRequests.count ["http://a:8080", "failure"] = 1 ∧
      s.router.metrics.selectionEvents = 1 ∧ s.router.metrics.ruleInstalls = 1 := by
  obtain ⟨trace, s, hserves, hvisits, hcalls, hanswers, happlications, h0, h1, hsent0, hsent1⟩ :=
    run_served
  obtain ⟨-, ⟨htotal, hcount⟩, hlookups, ⟨hbackends, hbackend⟩, ⟨hevents, -⟩, ⟨hrules, hinstalls⟩, -⟩ :=
    metrics_account (isIdle_idle rfl rfl) rfl rfl hserves hvisits hcalls
  have hdue0 : backendDue (recordOf 0 trace) (.error .noUsableBackends) = none := by
    rw [backendDue, Visit.Record.called, hsent0]
    rfl
  have hdue1 : backendDue (recordOf 1 trace) (.ok { status := 500 }) =
      some ["http://a:8080", "failure"] := by
    rw [backendDue, Visit.Record.called, hsent1]
    decide +kernel
  refine ⟨trace, s, hserves, ?_, ?_, ?_, ?_, ?_, ?_, ?_⟩
  · rw [htotal, hanswers]
    rfl
  · rw [hcount, hanswers]
    decide +kernel
  · rw [hlookups, hanswers]
    simp [h0, h1]
  · rw [hbackends, hanswers]
    simp [hsent0, hsent1]
  · rw [hbackend, hanswers]
    simp [hdue0, hdue1]
  · rw [hevents, happlications]
    rfl
  · rw [hrules, hinstalls, happlications]
    decide +kernel

end System

end Switchyard
