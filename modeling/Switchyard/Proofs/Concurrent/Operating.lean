/-
The loops of the running program are loops of an operation.

What a service does in one go when a loop is started, when loops are told to end and when its clock moves is a
run of an operation in which nobody else moves.  So what holds of the loops of every operation holds of those
of a service.
-/
import Switchyard.Proofs.Concurrent.Operation
import Switchyard.Proofs.Concurrent.Sequential

namespace Switchyard.Operation

variable {p : Proxy} {τ : Type} {svc svc' : Service τ} {n : Nat} {o : Operation}
  {ls : List RefreshLoop} {l : RefreshLoop} {k : Nat}

/-- The operation stands where the service does, its loops are these, and nobody but the service is
about. -/
structure Follows (svc : Service τ) (n : Nat) (ls : List RefreshLoop) (o : Operation) : Prop where
  system : o.system.Follows svc n
  stop : o.stop = svc.stop
  tasks : o.tasks = ls.map .running

/-- The operation has a run to where the service stands with these loops. -/
def CatchesUp (p : Proxy) (o : Operation) (svc : Service τ) (ls : List RefreshLoop) : Prop :=
  ∃ trace o' n, Run p o trace o' ∧ o'.Follows svc n ls

theorem Follows.catchesUp (h : o.Follows svc n ls) : CatchesUp p o svc ls := ⟨[], o, n, .nil, h⟩

theorem CatchesUp.trans {ls' : List RefreshLoop} (h : CatchesUp p o svc ls)
    (hnext : ∀ o n, Follows svc n ls o → CatchesUp p o svc' ls') : CatchesUp p o svc' ls' := by
  obtain ⟨before, mid, n, hbefore, hmid⟩ := h
  obtain ⟨after, o', m, hafter, ho'⟩ := hnext mid n hmid
  exact ⟨before ++ after, o', m, hbefore.append hafter, ho'⟩

/-- Only the router, the clock and the signal of a service matter. -/
theorem CatchesUp.congr (h : CatchesUp p o svc ls) (hrouter : svc'.router = svc.router)
    (hnow : svc'.now = svc.now) (hstop : svc'.stop = svc.stop) : CatchesUp p o svc' ls := by
  obtain ⟨trace, o', n, hrun, ho'⟩ := h
  exact ⟨trace, o', n, hrun, ho'.system.congr hrouter hnow, ho'.stop.trans hstop.symm, ho'.tasks⟩

/-! ## Single loops -/

theorem Follows.getElem? (h : o.Follows svc n ls) (hk : ls[k]? = some l) :
    o.tasks[k]? = some (.running l) := by
  rw [h.tasks, List.getElem?_map, hk]
  rfl

/-- One of the loops has moved, and the service knows. -/
theorem Follows.set (h : o.Follows svc n ls) (k : Nat) (l : RefreshLoop) :
    Follows svc n (ls.set k l) { o with tasks := o.tasks.set k (.running l) } := by
  refine ⟨h.system, h.stop, ?_⟩
  rw [h.tasks, List.map_set]

/-- A loop looks whether it is to end. -/
theorem Follows.look (h : o.Follows svc n ls) (hk : ls[k]? = some l) (hphase : l.phase = .looking) :
    CatchesUp p o (svc.lookFor l).2 (ls.set k (svc.lookFor l).1) := by
  have hlook : LoopTask.Step o.system o.stop (.running l) .look (.running (l.look svc.stop)) := by
    rw [← h.stop]
    exact .look hphase
  have hlooked : CatchesUp p o svc (ls.set k (l.look svc.stop)) :=
    ⟨_, _, n, Run.nil.snoc (.loop_of_not_isPass (h.getElem? hk) hlook rfl), h.set k _⟩
  exact hlooked.congr rfl rfl rfl

/-- The pass of a loop is a refresh by a call that has not moved before. -/
theorem Follows.refresh (h : o.Follows svc n ls) (hk : ls[k]? = some l) (hdue : l.isDue svc.now = true) :
    CatchesUp p o svc.refresh.2
      (ls.set k (l.beginPass svc.router.interval svc.now).finishPass) := by
  have hfresh : o.system.calls n = .fresh := h.system.fresh n (Nat.le_refl n)
  have htask := h.getElem? hk
  have hplace : k < o.tasks.length := (List.getElem?_eq_some_iff.1 htask).1
  have hbegin : LoopTask.Step o.system o.stop (.running l) (.refresh n)
      (.refreshing (l.beginPass svc.router.interval svc.now) n) := by
    rw [← h.system.router_eq, ← h.system.now_eq]
    exact .refresh (by rw [h.system.now_eq]; exact hdue) hfresh
  have hown : ∀ u ∈ o.tasks, ∀ i, u.call? = some i → LoopTask.Act.refresh n ≠ .refresh i := by
    intro u hu i hi
    rw [h.tasks] at hu
    obtain ⟨other, -, rfl⟩ := List.mem_map.1 hu
    cases hi
  have h1 := (Run.nil (p := p)).snoc (.loop htask hbegin hown)
  obtain ⟨trace, hrun, hkept⟩ := System.run_refresh (p := p) svc.network h.system.free hfresh
  have h2 := h1.append (.ofSystem hrun hkept)
  have h3 := h2.snoc (.loop_of_not_isPass (List.getElem?_set_self hplace)
    (.proceed (by rw [System.calls_moveCall_self]; rfl)) rfl)
  refine ⟨_, _, n + 1, h3, h.system.moveCall_refresh, h.stop, ?_⟩
  rw [List.set_set, h.tasks, List.map_set]

/-- A loop that is due makes its pass and looks again. -/
theorem Follows.pass (h : o.Follows svc n ls) (hk : ls[k]? = some l) (hdue : l.isDue svc.now = true) :
    CatchesUp p o (svc.pass l).2 (ls.set k (svc.pass l).1) := by
  have hplace : k < ls.length := (List.getElem?_eq_some_iff.1 hk).1
  refine (h.refresh hk hdue).trans fun o n h => ?_
  rw [← List.set_set (l.beginPass svc.router.interval svc.now).finishPass]
  exact (h.look (List.getElem?_set_self hplace) rfl).congr rfl rfl rfl

/-- A loop that has been told something takes note and looks again. -/
theorem Follows.note (h : o.Follows svc n ls) (hk : ls[k]? = some l) (htold : l.isTold svc.stop = true) :
    CatchesUp p o (svc.lookFor (l.takeNote svc.stop)).2
      (ls.set k (svc.lookFor (l.takeNote svc.stop)).1) := by
  have hplace : k < ls.length := (List.getElem?_eq_some_iff.1 hk).1
  have hnote : LoopTask.Step o.system o.stop (.running l) .note (.running (l.takeNote svc.stop)) := by
    rw [← h.stop]
    exact .note (by rw [h.stop]; exact htold)
  have hnoted : CatchesUp p o svc (ls.set k (l.takeNote svc.stop)) :=
    ⟨_, _, n, Run.nil.snoc (.loop_of_not_isPass (h.getElem? hk) hnote rfl), h.set k _⟩
  refine hnoted.trans fun o n h => ?_
  rw [← List.set_set (l.takeNote svc.stop)]
  exact h.look (List.getElem?_set_self hplace) rfl

/-! ## All loops -/

/-- A round of the loops is made of what each of them does. -/
theorem Follows.eachLoop {step : Service τ → RefreshLoop → RefreshLoop × Service τ}
    (hstep : ∀ (o : Operation) (svc : Service τ) (n : Nat) (ls : List RefreshLoop) (k : Nat)
      (l : RefreshLoop), o.Follows svc n ls → ls[k]? = some l →
        CatchesUp p o (step svc l).2 (ls.set k (step svc l).1))
    (before after : List RefreshLoop) (h : o.Follows svc n (before ++ after)) :
    CatchesUp p o (Service.eachLoop step svc after).2
      (before ++ (Service.eachLoop step svc after).1) := by
  induction after generalizing before o svc n with
  | nil => exact h.catchesUp
  | cons l after ih =>
    have hplace : (before ++ l :: after)[before.length]? = some l := by simp
    refine (hstep o svc n _ before.length l h hplace).trans fun o m h => ?_
    have hmoved : (before ++ l :: after).set before.length (step svc l).1 =
        (before ++ [(step svc l).1]) ++ after := by simp
    rw [hmoved] at h
    have hrest := ih (before ++ [(step svc l).1]) h
    rw [List.append_assoc] at hrest
    exact hrest

theorem Follows.overLoops {step : Service τ → RefreshLoop → RefreshLoop × Service τ}
    (hstep : ∀ (o : Operation) (svc : Service τ) (n : Nat) (ls : List RefreshLoop) (k : Nat)
      (l : RefreshLoop), o.Follows svc n ls → ls[k]? = some l →
        CatchesUp p o (step svc l).2 (ls.set k (step svc l).1))
    (h : o.Follows svc n svc.loops) :
    CatchesUp p o (svc.overLoops step) (svc.overLoops step).loops := by
  exact (Follows.eachLoop hstep [] svc.loops h).congr rfl rfl rfl

/-- A loop that has nothing to do stays as it is. -/
theorem Follows.stay (h : o.Follows svc n ls) (hk : ls[k]? = some l) : CatchesUp p o svc (ls.set k l) := by
  obtain ⟨hlt, rfl⟩ := List.getElem?_eq_some_iff.1 hk
  rw [List.set_getElem_self hlt]
  exact h.catchesUp

/-! ## The service -/

/-- Every loop that is due makes its pass. -/
theorem Follows.settle (h : o.Follows svc n svc.loops) : CatchesUp p o svc.settle svc.settle.loops := by
  refine h.overLoops ?_
  intro o svc n ls k l h hk
  cases hdue : l.isDue svc.now with
  | true => exact h.pass hk hdue
  | false => exact h.stay hk

/-- All loops are told to end, and those that wait take note. -/
theorem Follows.shutdown (h : o.Follows svc n svc.loops) :
    CatchesUp p o svc.shutdown svc.shutdown.loops := by
  have htold : CatchesUp p o { svc with stop := svc.stop.raise } svc.loops :=
    ⟨_, _, n, Run.nil.snoc .shutdown, h.system.congr rfl rfl, congrArg StopSignal.raise h.stop, h.tasks⟩
  refine htold.trans fun o n h => Follows.overLoops ?_ h
  intro o svc n ls k l h hk
  cases hnews : l.isTold svc.stop with
  | true => exact h.note hk hnews
  | false => exact h.stay hk

/-- A loop is started and runs for the first time. -/
theorem Follows.spawn (h : o.Follows svc n ls) (hlong : svc.router.interval.isZero = false)
    (hfirst : LoopTask.Step o.system o.stop (.spawned svc.stop.count) .wake (.running l)) :
    CatchesUp p o svc (ls ++ [l]) := by
  rw [← h.system.router_eq] at hlong
  rw [← h.stop] at hfirst
  have hplace : (o.tasks ++ [LoopTask.spawned o.stop.count])[o.tasks.length]? =
      some (.spawned o.stop.count) := List.getElem?_concat_length
  have hrun := (Run.nil (p := p)).snoc (.start hlong)
  refine ⟨_, _, n, hrun.snoc (.loop_of_not_isPass hplace hfirst rfl), h.system, h.stop, ?_⟩
  show (o.tasks ++ [LoopTask.spawned o.stop.count]).set o.tasks.length (.running l) = _
  rw [List.set_append_right _ _ (Nat.le_refl _), Nat.sub_self, h.tasks, List.map_append]
  rfl

/-- Starting a loop is refused, or the loop runs for the first time and looks whether it is to end. -/
theorem Follows.start (h : o.Follows svc n svc.loops) :
    match svc.start with
    | .ok svc' => CatchesUp p o svc' svc'.loops
    | .error message => Step p o (.refused message) o := by
  rw [Service.start]
  cases hzero : svc.router.interval.isZero with
  | true =>
    rw [← h.system.router_eq] at hzero
    exact .refuse hzero
  | false =>
    cases hdue : RefreshLoop.firstDue svc.now svc.router.interval with
    | none =>
      have hdies : LoopTask.Step o.system o.stop (.spawned svc.stop.count) .wake
          (.running { RefreshLoop.fresh svc.now svc.stop with phase := .ended }) := by
        rw [← h.system.router_eq, ← h.system.now_eq] at hdue
        rw [← h.system.now_eq]
        exact .die hdue
      exact (h.spawn hzero hdies).congr rfl rfl rfl
    | some due =>
      have hwakes : LoopTask.Step o.system o.stop (.spawned svc.stop.count) .wake
          (.running (.fresh due svc.stop)) := by
        rw [← h.system.router_eq, ← h.system.now_eq] at hdue
        exact .wake hdue
      have hlooked : CatchesUp p o svc (svc.loops ++ [(RefreshLoop.fresh due svc.stop).look svc.stop]) := by
        refine (h.spawn hzero hwakes).trans fun o n h => ?_
        have hlook := h.look (p := p) (k := svc.loops.length) List.getElem?_concat_length rfl
        rw [List.set_append_right _ _ (Nat.le_refl _), Nat.sub_self] at hlook
        exact hlook.congr rfl rfl rfl
      exact hlooked.congr rfl rfl rfl

/-! ## Waiting -/

/-- The clock moves on. -/
theorem Follows.tick (h : o.Follows svc n ls) {later : Nat} (hle : svc.now ≤ later) :
    CatchesUp p o { svc with now := later } ls := by
  have hnow := h.system.now_eq
  refine ⟨_, _, n, Run.nil.snoc (.tick (later - svc.now)),
    ⟨h.system.router_eq, ?_, h.system.free, h.system.fresh⟩, h.stop, h.tasks⟩
  show o.system.now + (later - svc.now) = later
  omega

/-- The clock moves on, and the loops that are due then make their passes. -/
theorem Follows.tick_settle (h : o.Follows svc n svc.loops) {later : Nat} (hle : svc.now ≤ later) :
    CatchesUp p o (Service.settle { svc with now := later })
      (Service.settle { svc with now := later }).loops :=
  (h.tick hle).trans fun _ _ h => Follows.settle h

theorem Follows.advance (h : o.Follows svc n svc.loops) (d : Duration) :
    CatchesUp p o (svc.advance d) (svc.advance d).loops :=
  h.tick_settle (Nat.le_add_right _ _)

theorem Follows.sleepUntil (wake fuel : Nat) (h : o.Follows svc n svc.loops) :
    CatchesUp p o (svc.sleepUntil wake fuel) (svc.sleepUntil wake fuel).loops := by
  induction fuel generalizing svc o n with
  | zero => exact h.tick_settle (Nat.le_max_left _ _)
  | succ fuel ih =>
    rw [Service.sleepUntil]
    cases Service.earliest svc.loops with
    | none => exact h.tick (Nat.le_max_left _ _)
    | some due =>
      by_cases hdue : due ≤ wake
      · simp only [if_pos hdue]
        exact (h.tick_settle (Nat.le_max_left _ _)).trans fun _ _ h => ih h
      · simp only [if_neg hdue]
        exact h.tick (Nat.le_max_left _ _)

/-- Waiting is made of ticks and passes. -/
theorem Follows.sleep (h : o.Follows svc n svc.loops) (d : Duration) :
    CatchesUp p o (svc.sleep d) (svc.sleep d).loops :=
  h.sleepUntil _ _

end Switchyard.Operation
