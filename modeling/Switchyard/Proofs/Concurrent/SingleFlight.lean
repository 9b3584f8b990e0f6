/-
One refresh at a time, and no update lost.

Publishing a pass is a plain read of the state and a plain write of what follows, so it is right only if
nobody else publishes in between.  `IsSerial` says how the gate sees to that: the turn is held exactly
while some call has it, by one call only, and who has read the state still has it in force.
`IsAccounted` says what comes of it: the published state is what the applied passes make of it, in their
order, and each pass is applied once.
-/
import Switchyard.Proofs.Concurrent.System

namespace Switchyard

namespace System

variable {p : Proxy} {start s s' : System} {trace : List Label}

/-! ## The turn -/

/-- The gate is held by one call or by none, and the state that was read is the state in force. -/
structure IsSerial (s : System) : Prop where
  held_iff : s.router.gate.held = true ↔ ∃ i, (s.calls i).holdsTurn = true
  exclusive : ∀ i j, (s.calls i).holdsTurn = true → (s.calls j).holdsTurn = true → i = j
  announced : s.router.gate.announced = s.router.gate.generation
  current : ∀ i next current, s.calls i = .merging next current → current = s.router.state

theorem IsIdle.isSerial (h : s.IsIdle) : s.IsSerial := by
  have hfresh : ∀ i, (s.calls i).holdsTurn = false := by
    intro i
    rw [h.calls i]
    rfl
  refine ⟨?_, ?_, ?_, ?_⟩
  · rw [h.gate]
    simp [hfresh]
  · intro i j hi
    rw [hfresh i] at hi
    cases hi
  · rw [h.gate]
  · intro i next current hi
    rw [h.calls i] at hi
    cases hi

section Calls

variable {i : Nat} {c' : Call} {act : Call.Act} {r : Router}

/-- While one call holds the turn, no other one does. -/
theorem IsSerial.holdsTurn_eq_false (hs : s.IsSerial) (hi : (s.calls i).holdsTurn = true) {j : Nat}
    (hj : j ≠ i) : (s.calls j).holdsTurn = false := by
  rw [Bool.eq_false_iff]
  intro hheld
  exact hj (hs.exclusive j i hheld hi)

/-- A step of a call leaves the turn with one call, or with none. -/
theorem IsSerial.turn_call (hs : s.IsSerial)
    (h : Call.Step s.now s.router (s.calls i) act r c') :
    (r.gate.held = true ↔ ∃ j, ((s.moveCall i r c').calls j).holdsTurn = true) ∧
    (∀ j k, ((s.moveCall i r c').calls j).holdsTurn = true →
      ((s.moveCall i r c').calls k).holdsTurn = true → j = k) ∧
    r.gate.announced = r.gate.generation := by
  rcases h.gate_cases with
    ⟨-, htaken, hfree, hgate⟩ | ⟨hheld, hgiven, -, hgate⟩ | ⟨hsame, hgate⟩
  · -- the gate was free, so nobody else holds the turn
    have honly : ∀ j, ((s.moveCall i r c').calls j).holdsTurn = true → j = i := by
      intro j hj
      by_contra hne
      rw [calls_moveCall_of_ne s i r c' hne] at hj
      rw [hs.held_iff.2 ⟨j, hj⟩] at hfree
      cases hfree
    rw [hgate]
    refine ⟨iff_of_true rfl ⟨i, ?_⟩, ?_, hs.announced⟩
    · rw [calls_moveCall_self]
      exact htaken
    · intro j k hj hk
      rw [honly j hj, honly k hk]
  · -- the only holder gives the turn back
    have hnone : ∀ j, ((s.moveCall i r c').calls j).holdsTurn = false := by
      intro j
      by_cases hj : j = i
      · rw [hj, calls_moveCall_self]
        exact hgiven
      · rw [calls_moveCall_of_ne s i r c' hj]
        exact hs.holdsTurn_eq_false hheld hj
    rw [hgate]
    refine ⟨?_, ?_, rfl⟩
    · simp [hnone]
    · intro j k hj
      rw [hnone j] at hj
      cases hj
  · -- the gate is left alone, and so is the turn
    have hturn : ∀ j, ((s.moveCall i r c').calls j).holdsTurn = (s.calls j).holdsTurn := by
      intro j
      by_cases hj : j = i
      · rw [hj, calls_moveCall_self]
        exact hsame
      · rw [calls_moveCall_of_ne s i r c' hj]
    rw [hgate]
    simp only [hturn]
    exact ⟨hs.held_iff, hs.exclusive, hs.announced⟩

/-- While one call holds the turn, no step of another one publishes. -/
theorem IsSerial.state_call (hs : s.IsSerial)
    (h : Call.Step s.now s.router (s.calls i) act r c') {j : Nat} (hj : j ≠ i)
    (hheld : (s.calls j).holdsTurn = true) : r.state = s.router.state := by
  rcases h.pass_cases with ⟨next, current, hc, -⟩ | ⟨next, -, -, -, -, hstate⟩ | ⟨-, -, -, -, hstate⟩
  · -- a call that publishes holds the turn itself
    have hfalse := hs.holdsTurn_eq_false hheld (Ne.symm hj)
    rw [hc] at hfalse
    cases hfalse
  · exact hstate
  · exact hstate

end Calls

/-- Whatever step is made, the turn stays with one call. -/
theorem IsSerial.step {l : Label} (hs : s.IsSerial) (h : Step p s l s') : s'.IsSerial := by
  cases h with
  | @call i c c' act r hc h =>
    subst hc
    obtain ⟨hheld, hexclusive, hannounced⟩ := hs.turn_call h
    refine ⟨hheld, hexclusive, hannounced, ?_⟩
    intro j next current hj
    by_cases hji : j = i
    · -- the call has read the state just now, and reading leaves it alone
      rw [hji, calls_moveCall_self] at hj
      obtain ⟨hcurrent, hstate⟩ := h.current_eq hj
      exact hcurrent.trans hstate.symm
    · -- another call has read the state, so it holds the turn and nobody else publishes
      rw [calls_moveCall_of_ne s i r c' hji] at hj
      have hturn : (s.calls j).holdsTurn = true := by
        rw [hj]
        rfl
      exact (hs.current j next current hj).trans (hs.state_call h hji hturn).symm
  | @visit j v v' act r hv h =>
    obtain ⟨hstate, hgate, -⟩ := h.frame
    refine ⟨?_, hs.exclusive, ?_, ?_⟩
    · rw [router_moveVisit, hgate]
      exact hs.held_iff
    · rw [router_moveVisit, hgate]
      exact hs.announced
    · rw [router_moveVisit, hstate]
      exact hs.current
  | tick nanos => exact ⟨hs.held_iff, hs.exclusive, hs.announced, hs.current⟩

theorem IsSerial.run (hs : start.IsSerial) (h : Run p start trace s) : s.IsSerial := by
  induction h with
  | nil => exact hs
  | snoc _ hstep ih => exact ih.step hstep

/-! ## The passes -/

/-- What is published is what the applied passes make of it, each of which is the one its call
completed.  At most one pass has been completed and not been applied, by the call that holds the turn. -/
structure IsAccounted (strategy : Strategy) (trace : List Label) (s : System) : Prop where
  strategy_eq : s.router.strategy = strategy
  state : s.router.state =
    RouterState.afterAll strategy {} ((applications trace).map Prod.snd)
  nodup : ((applications trace).map Prod.fst).Nodup
  mem_iff : ∀ i, i ∈ (applications trace).map Prod.fst ↔ (s.calls i).hasPublished = true
  pending : ∀ i next, (s.calls i).pending = some next →
    completions trace = applications trace ++ [(i, next)]
  settled : (∀ i, (s.calls i).pending = none) → completions trace = applications trace
  isSound : ∀ x ∈ completions trace, x.2.IsSound strategy

theorem IsIdle.isAccounted (h : s.IsIdle) : s.IsAccounted s.router.strategy [] := by
  refine ⟨rfl, h.state, List.nodup_nil, ?_, ?_, ?_, ?_⟩
  · intro i
    rw [h.calls i]
    simp [applications, Call.hasPublished]
  · intro i next hi
    rw [h.calls i] at hi
    cases hi
  · intro _
    rfl
  · intro x hx
    cases hx

section Passes

variable {strategy : Strategy} {i : Nat}

/-- Whether a call has published depends on its own steps only. -/
theorem IsAccounted.mem_iff_call (ha : s.IsAccounted strategy trace) {r : Router} {c' : Call}
    (hc : c'.hasPublished = (s.calls i).hasPublished) (j : Nat) :
    j ∈ (applications trace).map Prod.fst ↔ ((s.moveCall i r c').calls j).hasPublished = true := by
  rw [ha.mem_iff j]
  by_cases hj : j = i
  · rw [hj, calls_moveCall_self, hc]
  · rw [calls_moveCall_of_ne s i r c' hj]

/-- A pass is published: it is the one that was completed last, and its call publishes no other. -/
theorem IsAccounted.publish (ha : s.IsAccounted strategy trace) (hs : s.IsSerial)
    {next : Selection} {current : RouterState} (hc : s.calls i = .merging next current) :
    (s.moveCall i (s.router.publish (current.transition next s.router.strategy))
      (.published next)).IsAccounted strategy (trace ++ [.call i (.publish next)]) := by
  have happlications : applications (trace ++ [.call i (.publish next)]) =
      applications trace ++ [(i, next)] := applications_snoc trace _
  have hcompletions : completions (trace ++ [.call i (.publish next)]) = completions trace :=
    completions_of_none trace rfl
  have hturn : (s.calls i).holdsTurn = true := by
    rw [hc]
    rfl
  -- a call that is still merging has published nothing before
  have hnew : i ∉ (applications trace).map Prod.fst := by
    rw [ha.mem_iff i, hc]
    exact Bool.false_ne_true
  have hpending : completions trace = applications trace ++ [(i, next)] := by
    apply ha.pending i next
    rw [hc]
    rfl
  refine ⟨?_, ?_, ?_, ?_, ?_, ?_, ?_⟩
  · rw [router_moveCall, Router.strategy_publish, ha.strategy_eq]
  · -- the state that was read is still in force
    rw [router_moveCall, hs.current i next current hc, Router.state_publish, happlications,
      List.map_append, List.map_singleton, RouterState.afterAll_snoc, ← ha.state, ha.strategy_eq]
  · rw [happlications, List.map_append, List.map_singleton]
    exact List.nodup_append.2 ⟨ha.nodup, List.nodup_singleton i, by
      intro j hj k hk heq
      rw [heq, List.mem_singleton.1 hk] at hj
      exact hnew hj⟩
  · intro j
    rw [happlications, List.map_append, List.map_singleton, List.mem_append, List.mem_singleton,
      ha.mem_iff j]
    by_cases hj : j = i
    · rw [hj, calls_moveCall_self]
      exact iff_of_true (Or.inr rfl) rfl
    · rw [calls_moveCall_of_ne _ _ _ _ hj]
      simp [hj]
  · -- nobody else has an outcome in hand
    intro j n hj
    by_cases hji : j = i
    · rw [hji, calls_moveCall_self] at hj
      cases hj
    · rw [calls_moveCall_of_ne _ _ _ _ hji] at hj
      exact absurd (hs.exclusive j i (Call.holdsTurn_of_pending hj) hturn) hji
  · intro _
    rw [hcompletions, hpending, happlications]
  · rw [hcompletions]
    exact ha.isSound

/-- A pass is completed: the call that holds the turn has it in hand from now on. -/
theorem IsAccounted.collect (ha : s.IsAccounted strategy trace) (hs : s.IsSerial)
    {next : Selection} {r : Router} (hc : s.calls i = .selecting)
    (hnext : next.IsSound s.router.strategy) (hstrategy : r.strategy = s.router.strategy)
    (hstate : r.state = s.router.state) :
    (s.moveCall i r (.selected next)).IsAccounted strategy (trace ++ [.call i (.collect next)]) := by
  have happlications : applications (trace ++ [.call i (.collect next)]) = applications trace :=
    applications_of_none trace rfl
  have hcompletions : completions (trace ++ [.call i (.collect next)]) =
      completions trace ++ [(i, next)] := completions_snoc trace _
  have hturn : (s.calls i).holdsTurn = true := by
    rw [hc]
    rfl
  have hothers : ∀ j, j ≠ i → (s.calls j).pending = none := by
    intro j hj
    rw [Option.eq_none_iff_forall_ne_some]
    intro n hn
    exact hj (hs.exclusive j i (Call.holdsTurn_of_pending hn) hturn)
  -- until now nobody had an outcome in hand, not even the holder of the turn
  have hsettled : completions trace = applications trace := by
    apply ha.settled
    intro j
    by_cases hj : j = i
    · rw [hj, hc]
      rfl
    · exact hothers j hj
  -- nothing is published, and the only outcome in hand is the new one
  refine ⟨?_, ?_, ?_, ?_, ?_, ?_, ?_⟩
  · rw [router_moveCall, hstrategy, ha.strategy_eq]
  · rw [router_moveCall, hstate, happlications]
    exact ha.state
  · rw [happlications]
    exact ha.nodup
  · rw [happlications]
    apply ha.mem_iff_call
    rw [hc]
    rfl
  · intro j n hj
    by_cases hji : j = i
    · rw [hji, calls_moveCall_self] at hj
      rw [hcompletions, hsettled, happlications, hji, ← Option.some.inj hj]
    · rw [calls_moveCall_of_ne _ _ _ _ hji, hothers j hji] at hj
      cases hj
  · intro hnone
    have hi := hnone i
    rw [calls_moveCall_self] at hi
    cases hi
  · intro x hx
    rw [hcompletions] at hx
    rcases List.mem_append.1 hx with hx | hx
    · exact ha.isSound x hx
    · rw [List.mem_singleton.1 hx, ← ha.strategy_eq]
      exact hnext

/-- A step that neither completes nor publishes a pass changes nothing that passes account for. -/
theorem IsAccounted.quiet (ha : s.IsAccounted strategy trace) {l : Label}
    (happlication : l.application = none) (hcompletion : l.completion = none)
    (hstrategy : s'.router.strategy = s.router.strategy) (hstate : s'.router.state = s.router.state)
    (hpending : ∀ j, (s'.calls j).pending = (s.calls j).pending)
    (hpublished : ∀ j, (s'.calls j).hasPublished = (s.calls j).hasPublished) :
    s'.IsAccounted strategy (trace ++ [l]) := by
  have happlications : applications (trace ++ [l]) = applications trace :=
    applications_of_none trace happlication
  have hcompletions : completions (trace ++ [l]) = completions trace :=
    completions_of_none trace hcompletion
  refine ⟨hstrategy.trans ha.strategy_eq, ?_, ?_, ?_, ?_, ?_, ?_⟩
  · rw [hstate, happlications]
    exact ha.state
  · rw [happlications]
    exact ha.nodup
  · intro j
    rw [happlications, hpublished j]
    exact ha.mem_iff j
  · intro j n hj
    rw [hpending j] at hj
    rw [hcompletions, happlications]
    exact ha.pending j n hj
  · intro hnone
    rw [hcompletions, happlications]
    apply ha.settled
    intro j
    rw [← hpending j]
    exact hnone j
  · rw [hcompletions]
    exact ha.isSound

end Passes

/-- Whatever step is made, the passes are accounted for. -/
theorem IsAccounted.step {strategy : Strategy} {l : Label} (ha : s.IsAccounted strategy trace)
    (hs : s.IsSerial) (h : Step p s l s') : s'.IsAccounted strategy (trace ++ [l]) := by
  cases h with
  | @call i c c' act r hc h =>
    subst hc
    rcases h.pass_cases with
      ⟨next, current, hc, rfl, rfl, rfl⟩ | ⟨next, hc, rfl, rfl, hnext, hstate⟩ |
      ⟨happlied, hcollected, hpending, hpublished, hstate⟩
    · exact ha.publish hs hc
    · exact ha.collect hs hc hnext h.strategy_eq hstate
    · have hcall : ∀ j, ((s.moveCall i r c').calls j).pending = (s.calls j).pending ∧
          ((s.moveCall i r c').calls j).hasPublished = (s.calls j).hasPublished := by
        intro j
        by_cases hj : j = i
        · rw [hj, calls_moveCall_self]
          exact ⟨hpending, hpublished⟩
        · rw [calls_moveCall_of_ne _ _ _ _ hj]
          exact ⟨rfl, rfl⟩
      apply ha.quiet
      · rw [Label.application, happlied]
        rfl
      · rw [Label.completion, hcollected]
        rfl
      · exact h.strategy_eq
      · exact hstate
      · exact fun j => (hcall j).1
      · exact fun j => (hcall j).2
  | visit hv h =>
    obtain ⟨hstate, -, hstrategy⟩ := h.frame
    exact ha.quiet rfl rfl hstrategy hstate (fun _ => rfl) (fun _ => rfl)
  | tick nanos => exact ha.quiet rfl rfl rfl rfl (fun _ => rfl) (fun _ => rfl)

theorem IsIdle.isAccounted_run (h : start.IsIdle) (hrun : Run p start trace s) :
    s.IsAccounted start.router.strategy trace := by
  induction hrun with
  | nil => exact h.isAccounted
  | snoc hrun hstep ih => exact ih.step (h.isSerial.run hrun) hstep

/-- Every pass that was published is one that was completed, in the same order. -/
theorem IsAccounted.isPrefix {strategy : Strategy} (ha : s.IsAccounted strategy trace) :
    applications trace <+: completions trace := by
  by_cases h : ∃ i next, (s.calls i).pending = some next
  · obtain ⟨i, next, hi⟩ := h
    rw [ha.pending i next hi]
    exact List.prefix_append _ _
  · have hsettled : completions trace = applications trace := by
      apply ha.settled
      intro i
      rw [Option.eq_none_iff_forall_ne_some]
      intro next hi
      exact h ⟨i, next, hi⟩
    exact ⟨[], by rw [List.append_nil, hsettled]⟩

/-! ## Cancelled passes -/

section Cancelled

variable {i : Nat}

/-- A step of a call that ends up cancelled changes nothing that anyone else could see. -/
theorem quiet_of_isCancelled {act : Call.Act} (hstep : Step p start (.call i act) s)
    {s' : System} (hrun : Run p s trace s') (hi : (s'.calls i).isCancelled = true) :
    s.router.state = start.router.state ∧ s.router.bindings = start.router.bindings ∧
      s.router.metrics = start.router.metrics ∧ s.router.installs = start.router.installs := by
  -- who has published stays so to the end of the run, and is then not cancelled
  have hpublished : (s.calls i).hasPublished = false := by
    rw [Bool.eq_false_iff]
    intro hpublished
    have hlater : (s'.calls i).hasPublished = true := hrun.keeps_call
      (fun hc h => h.hasPublished_mono hc) hpublished
    rw [Call.isCancelled_eq_false hlater] at hi
    cases hi
  cases hstep with
  | call hc h =>
    rw [calls_moveCall_self] at hpublished
    exact h.quiet_of_not_hasPublished hpublished

end Cancelled

/-! ## Waiting for the writer -/

/-- The call has been waiting since some writer held the turn, and that writer still holds it or is
done. -/
def Awaits (i w g : Nat) (s : System) : Prop :=
  (s.calls w).isOver = true ∨
    (s.calls w).holdsTurn = true ∧ s.router.gate.generation = g ∧
      (s.calls i = .waiting (g + 1) ∨ s.calls i = .cancelled)

section Awaits

variable {i w g : Nat}

/-- A step of a call keeps the wait: it ends only with the turn that it is for. -/
theorem Awaits.call (hw : Awaits i w g s) (hs : s.IsSerial) {j : Nat} {act : Call.Act} {r : Router}
    {c' : Call} (h : Call.Step s.now s.router (s.calls j) act r c') :
    Awaits i w g (s.moveCall j r c') := by
  rcases hw with hover | ⟨hturn, hgeneration, hi⟩
  · -- the writer is done and makes no step
    left
    have hne : w ≠ j := by
      rintro rfl
      rw [h.not_isOver] at hover
      cases hover
    rw [calls_moveCall_of_ne _ _ _ _ hne]
    exact hover
  · -- the writer still holds the turn: what counts is whether this step gives it back
    have hiw : i ≠ w := by
      rintro rfl
      rcases hi with hi | hi <;> rw [hi] at hturn <;> cases hturn
    rcases h.gate_cases with ⟨-, -, hfree, -⟩ | ⟨hheld, -, hover, -⟩ | ⟨hsame, hgate⟩
    · rw [hs.held_iff.2 ⟨w, hturn⟩] at hfree
      cases hfree
    · -- the turn is given back by the only call that holds it
      left
      rw [hs.exclusive w j hturn hheld, calls_moveCall_self]
      exact hover
    · right
      refine ⟨?_, ?_, ?_⟩
      · by_cases hwj : w = j
        · subst hwj
          rw [calls_moveCall_self, hsame]
          exact hturn
        · rw [calls_moveCall_of_ne _ _ _ _ hwj]
          exact hturn
      · rw [router_moveCall, hgate]
        exact hgeneration
      · by_cases hij : i = j
        · subst hij
          rw [calls_moveCall_self]
          rcases hi with hi | hi
          · rw [hi] at h
            rcases h.waiting_cases with ⟨-, rfl | ⟨-, hready⟩⟩
            · exact Or.inr rfl
            · -- the generation that is waited for has not been announced
              rw [Gate.isReady, hs.announced, hgeneration, decide_eq_true_eq] at hready
              omega
          · rw [hi] at h
            cases h
        · rw [calls_moveCall_of_ne _ _ _ _ hij]
          exact hi

theorem Awaits.run (hw : Awaits i w g start) (hs : start.IsSerial) (h : Run p start trace s) :
    Awaits i w g s := by
  induction h with
  | nil => exact hw
  | @snoc _ _ s _ hrun hstep ih =>
    cases hstep with
    | @call j c c' act r hc h =>
      subst hc
      exact ih.call (hs.run hrun) h
    | visit hv h =>
      obtain ⟨-, hgate, -⟩ := h.frame
      rw [Awaits, router_moveVisit, hgate]
      exact ih
    | tick nanos => exact ih

/-- Who enters while a turn is held, and returns without having been cancelled, returns after that turn
has been given back. -/
theorem exists_writer_of_joined {mid s' : System} (hs : s.IsSerial)
    (hstep : Step p s (.call i .enter) mid) (hrun : Run p mid trace s')
    (hi : s'.calls i = .joined) :
    ∃ w, (s.calls w).holdsTurn = true ∧ (s'.calls w = .cancelled ∨ s'.calls w = .performed) := by
  have hmid : mid.IsSerial := hs.step hstep
  cases hstep with
  | @call _ c c' _ r hc h =>
    obtain ⟨rfl, rfl | ⟨hheld, rfl, hgate⟩⟩ := h.enter_cases
    · -- a writer holds the turn or is done, and neither is how a waiter returns
      have hwriter : (s'.calls i).holdsTurn = true ∨ (s'.calls i).isOver = true := by
        refine hrun.keeps_call (fun hc h => h.holdsTurn_or_isOver hc) ?_
        rw [calls_moveCall_self]
        exact Or.inl rfl
      rw [hi] at hwriter
      rcases hwriter with hwriter | hwriter <;> cases hwriter
    · -- the writer that is met is the one that is waited for
      obtain ⟨w, hw⟩ := hs.held_iff.1 hheld
      have hne : w ≠ i := by
        rintro rfl
        rw [hc] at hw
        cases hw
      have hawaits : Awaits i w s.router.gate.generation
          (s.moveCall i r (.waiting (s.router.gate.generation + 1))) := by
        refine Or.inr ⟨?_, ?_, Or.inl ?_⟩
        · rw [calls_moveCall_of_ne _ _ _ _ hne]
          exact hw
        · rw [router_moveCall, hgate]
        · rw [calls_moveCall_self]
      refine ⟨w, hw, ?_⟩
      rcases hawaits.run hmid hrun with hover | ⟨-, -, hwaiting⟩
      · exact Call.eq_of_isOver hover
      · rw [hi] at hwaiting
        rcases hwaiting with hwaiting | hwaiting <;> cases hwaiting

end Awaits

/-! ## Single flight -/

/-- **Single flight and no lost update.**  Whatever the order of the steps of any calls, requests and
cancellations: at most one call holds the turn.  While no application is under way, the published state
is what the applied passes make of it, in their order, each as its call completed it and each applied
once.  A step of a call that ends up cancelled changes neither the published state nor bindings, metrics
or the count of rules.  Who returns after waiting does so once the writer that it met was cancelled or
has applied its pass. -/
theorem single_flight (hstart : start.IsIdle) (hrun : Run p start trace s) :
    (∀ i j, (s.calls i).holdsTurn = true → (s.calls j).holdsTurn = true → i = j) ∧
    ((∀ i, (s.calls i).isApplying = false) →
      s.router.state = RouterState.afterAll start.router.strategy {}
        ((applications trace).map Prod.snd) ∧
      applications trace <+: completions trace ∧
      ((applications trace).map Prod.fst).Nodup ∧
      ∀ i, i ∈ (applications trace).map Prod.fst ↔ (s.calls i).hasApplied = true) ∧
    (∀ i act before after mid mid', Run p start before mid → Step p mid (.call i act) mid' →
      Run p mid' after s → (s.calls i).isCancelled = true →
      mid'.router.state = mid.router.state ∧ mid'.router.bindings = mid.router.bindings ∧
        mid'.router.metrics = mid.router.metrics ∧ mid'.router.installs = mid.router.installs) ∧
    (∀ i before after mid mid', Run p start before mid → Step p mid (.call i .enter) mid' →
      Run p mid' after s → s.calls i = .joined →
      ∃ w, (mid.calls w).holdsTurn = true ∧ (s.calls w = .cancelled ∨ s.calls w = .performed)) := by
  have hserial := hstart.isSerial.run hrun
  have haccounted := hstart.isAccounted_run hrun
  refine ⟨hserial.exclusive, ?_, ?_, ?_⟩
  · intro happlying
    refine ⟨haccounted.state, haccounted.isPrefix, haccounted.nodup, ?_⟩
    intro i
    rw [haccounted.mem_iff i, Call.hasPublished_eq_hasApplied (happlying i)]
  · intro i act before after mid mid' _ hstep hafter hi
    exact quiet_of_isCancelled hstep hafter hi
  · intro i before after mid mid' hbefore hstep hafter hi
    exact exists_writer_of_joined (hstart.isSerial.run hbefore) hstep hafter hi

/-- One backend, found by one locator. -/
def oneBackend : List Found := [⟨"static", .ok [{ scheme := "http", authority := "a:8080" }]⟩]

/-- The pass that finds the one backend. -/
def onePass : Selection := Selection.make .roundRobin oneBackend 0

/-- A router that takes backends in turn. -/
def rotating : Router :=
  { locators := [], strategy := .roundRobin, affinity := ⟨[], none⟩, interval := ⟨0⟩ }

/-- A writer is cancelled while another call waits for it; then a second writer makes a pass while yet
another call waits for that. -/
def handover : List Label :=
  [.call 0 .enter, .call 1 .enter, .call 0 .cancel, .call 0 .leave, .call 2 .enter, .call 1 .resume,
   .call 3 .enter, .call 2 (.collect onePass), .call 2 .read, .call 2 (.publish onePass),
   .call 2 .count, .call 2 .prune, .call 2 .leave, .call 3 .resume]

theorem run_handover :
    ∃ s, Run {} (idle rotating) handover s ∧ s.calls 0 = .cancelled ∧ s.calls 1 = .joined ∧
      s.calls 2 = .performed ∧ s.calls 3 = .joined ∧ ∀ i, (s.calls i).isApplying = false := by
  have h1 := (Run.nil (p := {})).snoc (.call (s := idle rotating) (i := 0) rfl (.takeTurn rfl))
  have h2 := h1.snoc (.call (i := 1) rfl (.takePlace rfl))
  -- the writer is cancelled, and with its turn the wait of the other call ends
  have h3 := h2.snoc (.call (i := 0) rfl .abandon)
  have h4 := h3.snoc (.call (i := 0) rfl .release)
  have h5 := h4.snoc (.call (i := 2) rfl (.takeTurn rfl))
  have h6 := h5.snoc (.call (i := 1) rfl (.resume rfl))
  -- the second writer makes its pass to the end, and only then is the call that met it released
  have h7 := h6.snoc (.call (i := 3) rfl (.takePlace rfl))
  have h8 := h7.snoc (.call (i := 2) rfl (.collect [] oneBackend))
  have h9 := h8.snoc (.call (i := 2) rfl .read)
  have h10 := h9.snoc (.call (i := 2) rfl .publish)
  have h11 := h10.snoc (.call (i := 2) rfl .count)
  have h12 := h11.snoc (.call (i := 2) rfl .prune)
  have h13 := h12.snoc (.call (i := 2) rfl .leave)
  have h14 := h13.snoc (.call (i := 3) rfl (.resume rfl))
  refine ⟨_, h14, rfl, rfl, rfl, rfl, ?_⟩
  intro i
  rcases i with _ | _ | _ | _ | i
  all_goals rfl

/-- After the handover the published state is what the second writer's pass makes of nothing. -/
theorem single_flight_handover :
    ∃ s, Run {} (idle rotating) handover s ∧ s.calls 0 = .cancelled ∧ s.calls 1 = .joined ∧
      s.calls 2 = .performed ∧ s.calls 3 = .joined ∧
      s.router.state = RouterState.afterAll .roundRobin {} [onePass] ∧
      ∀ i, i ∈ [2] ↔ (s.calls i).hasApplied = true := by
  obtain ⟨s, hrun, h0, h1, h2, h3, happlying⟩ := run_handover
  obtain ⟨-, hpasses, -, -⟩ := single_flight (isIdle_idle rfl rfl) hrun
  obtain ⟨hstate, -, -, hmem⟩ := hpasses happlying
  exact ⟨s, hrun, h0, h1, h2, h3, hstate, hmem⟩

end System

end Switchyard
