/-
The life of refresh loops.

A loop looks at the signal before it waits, so one that waits has been told nothing yet; once loops are told
to end, it has been told something that it has not seen (`IsOrderly`).  From then on each of its steps brings
it closer to its end (`LoopTask.Step.stepsLeft_lt`), and it can begin a pass only from waiting, where it does
not come again (`LoopTask.Step.passesLeft_le`).
-/
import Switchyard.Proofs.Concurrent.Operating

namespace Switchyard

/-! ## What loops are told -/

namespace StopSignal

/-- Loops are to end exactly if they have been told anything. -/
def IsSound (stop : StopSignal) : Prop := stop.raised = true ↔ 0 < stop.count

theorem isSound_default : IsSound {} := by
  simp [IsSound]

theorem isSound_raise (stop : StopSignal) : stop.raise.IsSound := by
  simp [IsSound, raise]

end StopSignal

/-! ## One loop -/

namespace LoopTask

/-- How many steps a loop can still make by itself, once it is told to end. -/
def stepsLeft : LoopTask → Nat
  | spawned _ => 2
  | refreshing _ _ => 2
  | running l =>
    match l.phase with
    | .looking => 1
    | .waiting => 3
    | .passing => 2
    | .ended => 0

/-- How many passes a loop can still begin, once it is told to end. -/
def passesLeft : LoopTask → Nat
  | running l => if l.phase = .waiting then 1 else 0
  | _ => 0

/-- What holds of a loop: one that waits has been told nothing, and one that ended was told to end. -/
def IsOrderly (stop : StopSignal) : LoopTask → Prop
  | spawned seen => seen ≤ stop.count
  | running l => l.seen ≤ stop.count ∧ (l.phase = .waiting → l.seen = 0) ∧
      (l.phase = .ended → stop.raised = true) ∧ l.phase ≠ .passing
  | refreshing l _ => l.seen ≤ stop.count

variable {s : System} {stop : StopSignal} {t t' : LoopTask} {act : Act}

theorem IsOrderly.raise (h : t.IsOrderly stop) : t.IsOrderly stop.raise := by
  cases t with
  | spawned seen => exact Nat.le_succ_of_le h
  | running l => exact ⟨Nat.le_succ_of_le h.1, h.2.1, fun _ => rfl, h.2.2.2⟩
  | refreshing l i => exact Nat.le_succ_of_le h

theorem isOrderly_of_looking {l : RefreshLoop} (hseen : l.seen ≤ stop.count)
    (hphase : l.phase = .looking) : (running l).IsOrderly stop := by
  rw [IsOrderly, hphase]
  simpa using hseen

/-- A step keeps a loop in order, unless the loop dies because its first pass would never be due. -/
theorem IsOrderly.step (h : t.IsOrderly stop) (hstep : Step s stop t act t') (hstop : stop.IsSound)
    (htime : RefreshLoop.firstDue s.now s.router.interval ≠ none) : t'.IsOrderly stop := by
  cases hstep with
  | wake => exact isOrderly_of_looking h rfl
  | die hnone => exact absurd hnone htime
  | @look l hphase =>
    rw [RefreshLoop.look, if_pos hphase]
    cases hraised : stop.raised with
    | true => exact ⟨h.1, nofun, fun _ => hraised, nofun⟩
    | false =>
      -- nothing has been told yet, so nothing has been seen
      have hcount : stop.count = 0 := by
        by_contra hne
        rw [hstop.2 (Nat.pos_of_ne_zero hne)] at hraised
        cases hraised
      exact ⟨h.1, fun _ => Nat.le_zero.1 (hcount ▸ h.1), nofun, nofun⟩
  | @refresh l i =>
    rw [IsOrderly, RefreshLoop.beginPass]
    exact h.1
  | proceed => exact isOrderly_of_looking h rfl
  | note => exact isOrderly_of_looking (Nat.le_refl _) rfl

/-- A loop that waits when loops are told to end has been told so. -/
theorem IsOrderly.isTold {l : RefreshLoop} (h : (running l).IsOrderly stop) (hstop : stop.IsSound)
    (hraised : stop.raised = true) (hphase : l.phase = .waiting) : l.isTold stop = true := by
  have hseen : l.seen = 0 := h.2.1 hphase
  have hcount : 0 < stop.count := hstop.1 hraised
  rw [RefreshLoop.isTold, hphase, hseen]
  simp only [decide_true, Bool.true_and, decide_eq_true_eq]
  omega

/-- Once loops are told to end, each step of a loop brings it closer to its end. -/
theorem Step.stepsLeft_lt (h : Step s stop t act t') (hraised : stop.raised = true) :
    t'.stepsLeft < t.stepsLeft := by
  cases h with
  | wake | die => simp [stepsLeft]
  | look hphase => simp [stepsLeft, RefreshLoop.look, hphase, hraised]
  | refresh hdue =>
    rw [RefreshLoop.isDue, Bool.and_eq_true, decide_eq_true_eq] at hdue
    simp [stepsLeft, hdue.1]
  | proceed => simp [stepsLeft, RefreshLoop.finishPass]
  | note htold =>
    rw [RefreshLoop.isTold, Bool.and_eq_true, decide_eq_true_eq] at htold
    simp [stepsLeft, htold.1, RefreshLoop.takeNote]

/-- Once loops are told to end, a loop that begins a pass waited for it, and does not wait again. -/
theorem Step.passesLeft_le (h : Step s stop t act t') (hraised : stop.raised = true) :
    act.isPass.toNat + t'.passesLeft ≤ t.passesLeft := by
  cases h with
  | wake | die => simp [passesLeft, Act.isPass]
  | look hphase => simp [passesLeft, Act.isPass, RefreshLoop.look, hphase, hraised]
  | refresh hdue =>
    rw [RefreshLoop.isDue, Bool.and_eq_true, decide_eq_true_eq] at hdue
    simp [passesLeft, Act.isPass, hdue.1]
  | proceed => simp [passesLeft, Act.isPass, RefreshLoop.finishPass]
  | note htold => simp [passesLeft, Act.isPass, RefreshLoop.takeNote]

/-- Once loops are told to end, a loop that looks ends. -/
theorem Step.hasEnded_of_look (h : Step s stop t .look t') (hraised : stop.raised = true) :
    t'.hasEnded = true := by
  cases h with
  | look hphase =>
    rw [RefreshLoop.look, if_pos hphase, hraised]
    rfl

/-- Only a loop that has ended has no steps left. -/
theorem stepsLeft_eq_zero_iff : t.stepsLeft = 0 ↔ t.hasEnded = true := by
  cases t with
  | spawned | refreshing => simp [stepsLeft, hasEnded]
  | running l => cases hphase : l.phase <;> simp [stepsLeft, hasEnded, RefreshLoop.hasEnded, hphase]

theorem stepsLeft_le (t : LoopTask) : t.stepsLeft ≤ 3 := by
  cases t with
  | running l =>
    rw [stepsLeft]
    split <;> decide
  | spawned | refreshing => exact Nat.le_succ 2

theorem passesLeft_le (t : LoopTask) : t.passesLeft ≤ 1 := by
  cases t with
  | running l =>
    rw [passesLeft]
    split <;> decide
  | spawned | refreshing => exact Nat.zero_le 1

end LoopTask

/-- A call is cancelled by nothing but being cancelled. -/
theorem Call.Step.isCancelled_eq_false {now : Nat} {r r' : Router} {c c' : Call} {act : Call.Act}
    (h : Call.Step now r c act r' c') (hact : act ≠ .cancel) (hc : c.isCancelled = false) :
    c'.isCancelled = false := by
  cases h with
  | forget | abandon | giveUp => exact absurd rfl hact
  | release => cases hc
  | _ => rfl

namespace Operation

variable {p : Proxy} {start mid o o' : Operation} {l : Label} {trace before after : List Label} {k : Nat}

/-! ## All loops -/

/-- What holds of all loops, as long as time lasts. -/
structure IsOrderly (o : Operation) : Prop where
  stop : o.stop.IsSound
  tasks : ∀ (k : Nat) (t : LoopTask), o.tasks[k]? = some t → t.IsOrderly o.stop
  calls : ∀ (k : Nat) (t : LoopTask) (i : Nat), o.tasks[k]? = some t → t.call? = some i →
    (o.system.calls i).isCancelled = false

theorem IsNew.isOrderly (h : o.IsNew) : o.IsOrderly := by
  have hnone : ∀ k : Nat, o.tasks[k]? = none := by
    intro k
    rw [h.tasks]
    rfl
  refine ⟨?_, ?_, ?_⟩
  · rw [h.stop]
    exact StopSignal.isSound_default
  · intro k t ht
    rw [hnone k] at ht
    cases ht
  · intro k t i ht
    rw [hnone k] at ht
    cases ht

/-- Nobody cancels the pass of a loop. -/
theorem Step.isCancelled_eq_false (h : Step p o l o') {t : LoopTask} {i : Nat} (ht : t ∈ o.tasks)
    (hi : t.call? = some i) (hc : (o.system.calls i).isCancelled = false) :
    (o'.system.calls i).isCancelled = false := by
  cases h with
  | loop | start | refuse | shutdown => exact hc
  | system h hkept =>
    cases h with
    | visit | tick => exact hc
    | @call j c c' act r hj h =>
      subst hj
      by_cases hij : i = j
      · subst hij
        rw [System.calls_moveCall_self]
        refine h.isCancelled_eq_false ?_ hc
        rintro rfl
        exact hkept t ht i hi rfl
      · rw [System.calls_moveCall_of_ne _ _ _ _ hij]
        exact hc

theorem IsOrderly.step (ho : o.IsOrderly) (h : Step p o l o') (htime : o.InTime) : o'.IsOrderly := by
  have hmono : ∀ t : LoopTask, t.IsOrderly o.stop → t.IsOrderly o'.stop := by
    intro t ht
    rcases h.stop_cases with ⟨-, hstop⟩ | ⟨-, hstop⟩
    · rw [hstop]
      exact ht.raise
    · rw [hstop]
      exact ht
  refine ⟨?_, ?_, ?_⟩
  · rcases h.stop_cases with ⟨-, hstop⟩ | ⟨-, hstop⟩
    · rw [hstop]
      exact o.stop.isSound_raise
    · rw [hstop]
      exact ho.stop
  · intro k t' ht'
    rcases h.task_cases k with ⟨-, -, hsame⟩ | ⟨act, t, t'', -, ht, ht'', hstep⟩ | ⟨-, -, hnew⟩
    · rw [hsame] at ht'
      exact hmono t' (ho.tasks k t' ht')
    · rw [ht''] at ht'
      cases ht'
      exact hmono _ ((ho.tasks k t ht).step hstep ho.stop htime)
    · rw [hnew] at ht'
      cases ht'
      exact hmono _ (Nat.le_refl _)
  · intro k t' i ht' hi
    rcases h.task_cases k with ⟨-, -, hsame⟩ | ⟨act, t, t'', rfl, ht, ht'', hstep⟩ | ⟨-, -, hnew⟩
    · rw [hsame] at ht'
      exact h.isCancelled_eq_false (List.mem_of_getElem? ht') hi (ho.calls k t' i ht' hi)
    · -- only a loop that begins a pass comes to wait for a call, and that has not moved yet
      rw [ht''] at ht'
      cases ht'
      cases h with
      | loop =>
        cases hstep with
        | refresh _ hfresh =>
          cases hi
          rw [hfresh]
          rfl
        | _ => cases hi
    · rw [hnew] at ht'
      cases ht'
      cases hi

theorem IsNew.isOrderly_run (hstart : start.IsNew) (h : Run p start trace o) (htime : o.InTime) :
    o.IsOrderly := by
  induction h with
  | nil => exact hstart.isOrderly
  | snoc _ hstep ih =>
    have hearlier := hstep.inTime htime
    exact (ih hearlier).step hstep hearlier

/-! ## Before loops are told to end -/

theorem Run.stop_eq (h : Run p start trace o) (hnone : Label.shutdown ∉ trace) : o.stop = start.stop := by
  induction h with
  | nil => rfl
  | snoc _ hstep ih =>
    rw [List.mem_append, not_or, List.mem_singleton] at hnone
    rcases hstep.stop_cases with ⟨hl, -⟩ | ⟨-, hstop⟩
    · exact absurd hl.symm hnone.2
    · exact hstop.trans (ih hnone.1)

/-- Nobody tells loops to end but by a shutdown. -/
theorem IsNew.raised_eq_false (hstart : start.IsNew) (h : Run p start trace o)
    (hnone : .shutdown ∉ trace) : o.stop.raised = false := by
  rw [h.stop_eq hnone, hstart.stop]

/-- Until loops are told to end, none does. -/
theorem IsNew.hasEnded_eq_false (hstart : start.IsNew) (h : Run p start trace o) (htime : o.InTime)
    (hnone : Label.shutdown ∉ trace) {t : LoopTask} (ht : t ∈ o.tasks) : t.hasEnded = false := by
  obtain ⟨k, hk⟩ := List.mem_iff_getElem?.1 ht
  have horderly := (hstart.isOrderly_run h htime).tasks k t hk
  cases t with
  | spawned | refreshing => rfl
  | running l =>
    rw [Bool.eq_false_iff]
    intro hended
    have hraised : o.stop.raised = true :=
      horderly.2.2.1 (by simpa [LoopTask.hasEnded, RefreshLoop.hasEnded] using hended)
    rw [hstart.raised_eq_false h hnone] at hraised
    cases hraised

/-! ## After loops are told to end -/

theorem Run.raised (h : Run p mid after o) (hraised : mid.stop.raised = true) :
    o.stop.raised = true := by
  induction h with
  | nil => exact hraised
  | snoc _ hstep ih =>
    rcases hstep.stop_cases with ⟨-, hstop⟩ | ⟨-, hstop⟩
    · rw [hstop]
      rfl
    · rw [hstop]
      exact ih

/-- How many steps the loop at some place can still make by itself, once it is told to end. -/
def stepsLeft (o : Operation) (k : Nat) : Nat := (o.tasks[k]?.map LoopTask.stepsLeft).getD 2

/-- How many passes the loop at some place can still begin, once it is told to end. -/
def passesLeft (o : Operation) (k : Nat) : Nat := (o.tasks[k]?.map LoopTask.passesLeft).getD 0

theorem Step.stepsLeft_le (h : Step p o l o') (hraised : o.stop.raised = true) (k : Nat) :
    (l.isOf k).toNat + o'.stepsLeft k ≤ o.stepsLeft k := by
  rw [stepsLeft, stepsLeft]
  rcases h.task_cases k with ⟨hother, -, hsame⟩ | ⟨act, t, t', rfl, ht, ht', hstep⟩ | ⟨rfl, hnone, hnew⟩
  · rw [hother, hsame]
    simp
  · have hlt := hstep.stepsLeft_lt hraised
    rw [ht, ht']
    simp only [Label.isOf, beq_self_eq_true, Bool.toNat_true, Option.map_some, Option.getD_some]
    omega
  · rw [hnone, hnew]
    exact Nat.le_refl _

theorem Step.passesLeft_le (h : Step p o l o') (hraised : o.stop.raised = true) (k : Nat) :
    (l.isPassOf k).toNat + o'.passesLeft k ≤ o.passesLeft k := by
  rw [passesLeft, passesLeft]
  rcases h.task_cases k with ⟨hother, -, hsame⟩ | ⟨act, t, t', rfl, ht, ht', hstep⟩ | ⟨rfl, hnone, hnew⟩
  · rw [Label.isPassOf_eq_false hother, hsame]
    simp
  · have hle := hstep.passesLeft_le hraised
    rw [ht, ht']
    simpa [Label.isPassOf] using hle
  · rw [hnone, hnew]
    exact Nat.le_refl _

/-- What each step takes from a bound, a run takes from it altogether. -/
theorem Run.countP_le {q : Label → Bool} {left : Operation → Nat}
    (hstep : ∀ {o l o'}, Step p o l o' → o.stop.raised = true → (q l).toNat + left o' ≤ left o)
    (h : Run p mid after o) (hraised : mid.stop.raised = true) :
    after.countP q + left o ≤ left mid := by
  induction h with
  | nil => simp
  | @snoc after l o o' h hlast ih =>
    have hone := hstep hlast (h.raised hraised)
    rw [List.countP_append, List.countP_singleton]
    cases hq : q l with
    | true =>
      rw [hq, Bool.toNat_true] at hone
      rw [if_pos rfl]
      omega
    | false =>
      rw [hq, Bool.toNat_false] at hone
      rw [if_neg Bool.false_ne_true]
      omega

theorem Run.countP_isOf_le (h : Run p mid after o) (hraised : mid.stop.raised = true) (k : Nat) :
    after.countP (·.isOf k) + o.stepsLeft k ≤ mid.stepsLeft k :=
  h.countP_le (fun hstep hraised => hstep.stepsLeft_le hraised k) hraised

theorem Run.countP_isPassOf_le (h : Run p mid after o) (hraised : mid.stop.raised = true) (k : Nat) :
    after.countP (·.isPassOf k) + o.passesLeft k ≤ mid.passesLeft k :=
  h.countP_le (fun hstep hraised => hstep.passesLeft_le hraised k) hraised

theorem stepsLeft_le (o : Operation) (k : Nat) : o.stepsLeft k ≤ 3 := by
  rw [stepsLeft]
  cases o.tasks[k]? with
  | none => decide
  | some t => exact t.stepsLeft_le

theorem passesLeft_le (o : Operation) (k : Nat) : o.passesLeft k ≤ 1 := by
  rw [passesLeft]
  cases o.tasks[k]? with
  | none => decide
  | some t => exact t.passesLeft_le

theorem exists_of_stepsLeft_eq_zero (h : o.stepsLeft k = 0) :
    ∃ t, o.tasks[k]? = some t ∧ t.hasEnded = true := by
  rw [stepsLeft] at h
  cases ht : o.tasks[k]? with
  | none =>
    rw [ht] at h
    cases h
  | some t =>
    rw [ht] at h
    exact ⟨t, rfl, LoopTask.stepsLeft_eq_zero_iff.1 h⟩

/-- A loop that looks once loops are told to end ends with that, and it makes no step after it. -/
theorem Run.hasEnded_of_look {rest : List Label} (h : Run p mid (.loop k .look :: rest) o)
    (hraised : mid.stop.raised = true) :
    (∃ t, o.tasks[k]? = some t ∧ t.hasEnded = true) ∧ ∀ act, Label.loop k act ∉ rest := by
  obtain ⟨looked, hlook, hrest⟩ := h.cons_inv
  have hzero : looked.stepsLeft k = 0 := by
    rcases hlook.task_cases k with ⟨hother, -, -⟩ | ⟨act, t, t', hact, -, ht', hstep⟩ | ⟨hstart, -, -⟩
    · simp [Label.isOf] at hother
    · cases hact
      rw [stepsLeft, ht']
      exact LoopTask.stepsLeft_eq_zero_iff.2 (hstep.hasEnded_of_look hraised)
    · cases hstart
  have hbound := hrest.countP_isOf_le (Run.raised (.snoc .nil hlook) hraised) k
  rw [hzero] at hbound
  refine ⟨exists_of_stepsLeft_eq_zero (by omega), ?_⟩
  intro act hmem
  have hcount : rest.countP (·.isOf k) = 0 := by omega
  exact List.countP_eq_zero.1 hcount _ hmem (beq_self_eq_true k)

/-! ## Loops that are started late -/

theorem Step.tasks_eq_none (h : Step p o l o') (hnone : o'.tasks[k]? = none) : o.tasks[k]? = none := by
  rcases h.task_cases k with ⟨-, -, hsame⟩ | ⟨act, t, t', -, -, ht', -⟩ | ⟨-, hnone, -⟩
  · rwa [hsame] at hnone
  · rw [ht'] at hnone
    cases hnone
  · exact hnone

theorem Run.tasks_eq_none (h : Run p start trace o) (hnone : o.tasks[k]? = none) :
    start.tasks[k]? = none := by
  induction h with
  | nil => exact hnone
  | snoc _ hstep ih => exact ih (hstep.tasks_eq_none hnone)

/-- A loop that was not started has made no step. -/
theorem Run.not_mem_of_tasks_eq_none (h : Run p start trace o) (hnone : o.tasks[k]? = none)
    (act : LoopTask.Act) : Label.loop k act ∉ trace := by
  induction h with
  | nil => exact List.not_mem_nil
  | @snoc trace l o o' _ hstep ih =>
    rw [List.mem_append, List.mem_singleton, not_or]
    refine ⟨ih (hstep.tasks_eq_none hnone), ?_⟩
    rintro rfl
    rcases hstep.task_cases k with ⟨hother, -, -⟩ | ⟨act, t, t', -, -, ht', -⟩ | ⟨hstart, -, -⟩
    · simp [Label.isOf] at hother
    · rw [ht'] at hnone
      cases hnone
    · cases hstart

/-- A loop that is started once loops are told to end begins no pass. -/
theorem Run.not_mem_of_started (h : Run p mid after o) (hraised : mid.stop.raised = true)
    (hstarted : Label.started k ∈ after) : mid.tasks[k]? = none ∧ ∀ i, Label.loop k (.refresh i) ∉ after := by
  obtain ⟨during, rest, rfl⟩ := List.append_of_mem hstarted
  obtain ⟨before, hduring, hrest⟩ := h.split
  obtain ⟨_, hstart, -⟩ := hrest.cons_inv
  have hnone : before.tasks[k]? = none := by
    rcases hstart.task_cases k with ⟨-, hother, -⟩ | ⟨act, t, t', hact, -⟩ | ⟨-, hnone, -⟩
    · exact absurd rfl hother
    · cases hact
    · exact hnone
  have hmid : mid.tasks[k]? = none := hduring.tasks_eq_none hnone
  refine ⟨hmid, fun i hmem => ?_⟩
  have hbound := h.countP_isPassOf_le hraised k
  rw [passesLeft, passesLeft, hmid] at hbound
  have hcount : (during ++ .started k :: rest).countP (·.isPassOf k) = 0 :=
    Nat.le_zero.1 (Nat.le_of_add_right_le hbound)
  exact List.countP_eq_zero.1 hcount _ hmem (by simp [Label.isPassOf, LoopTask.Act.isPass])

/-! ## Coming to an end -/

/-- A loop that is told to end and has not ended can make a step that begins no pass, unless it waits for its
pass, which is still under way. -/
theorem IsOrderly.exists_step (ho : o.IsOrderly) (p : Proxy) (hraised : o.stop.raised = true)
    {t : LoopTask} (ht : o.tasks[k]? = some t) (hended : t.hasEnded = false) :
    (∃ i, t.call? = some i ∧ (o.system.calls i).hasReturned = false ∧
      (o.system.calls i).isCancelled = false) ∨
    ∃ act o', act.isPass = false ∧ Step p o (.loop k act) o' := by
  have horderly := ho.tasks k t ht
  have hmoves : ∀ {act t'}, LoopTask.Step o.system o.stop t act t' → act.isPass = false →
      ∃ act o', act.isPass = false ∧ Step p o (.loop k act) o' :=
    fun hstep hact => ⟨_, _, hact, .loop_of_not_isPass ht hstep hact⟩
  cases t with
  | spawned seen =>
    right
    cases hdue : RefreshLoop.firstDue o.system.now o.system.router.interval with
    | none => exact hmoves (.die hdue) rfl
    | some due => exact hmoves (.wake hdue) rfl
  | refreshing l i =>
    cases hreturned : (o.system.calls i).hasReturned with
    | true => exact Or.inr (hmoves (.proceed hreturned) rfl)
    | false => exact Or.inl ⟨i, rfl, hreturned, ho.calls k _ i ht rfl⟩
  | running l =>
    right
    cases hphase : l.phase with
    | looking => exact hmoves (.look hphase) rfl
    | waiting => exact hmoves (.note (horderly.isTold ho.stop hraised hphase)) rfl
    | passing => exact absurd hphase horderly.2.2.2
    | ended => simp [LoopTask.hasEnded, RefreshLoop.hasEnded, hphase] at hended

/-! ## Intervals of no length -/

theorem Step.eq_refused (h : Step p o l o') (hzero : o.system.router.interval.isZero = true)
    (hl : l.isStart = true) : l = .refused Service.zeroInterval ∧ o' = o := by
  cases h with
  | refuse => exact ⟨rfl, rfl⟩
  | start hlong =>
    rw [hzero] at hlong
    cases hlong
  | system | loop | shutdown => cases hl

/-- With an interval of no length there are no loops. -/
theorem Run.tasks_eq_nil (h : Run p start trace o) (hstart : start.tasks = [])
    (hzero : start.system.router.interval.isZero = true) : o.tasks = [] := by
  induction h with
  | nil => exact hstart
  | snoc h hstep ih =>
    cases hstep with
    | system | refuse | shutdown => exact ih
    | loop ht =>
      rw [ih] at ht
      cases ht
    | start hlong =>
      rw [h.interval_eq, hzero] at hlong
      cases hlong

/-! ## The whole life -/

/-- **Refresh loops live until they are told to end.**  In any order of ticks, refreshes, requests, starts and
shutdowns, as long as a first pass can be due at all: with an interval of no length, starting a loop is
refused, nothing is changed by that, and there are no loops.  No loop ends before all are told to.  From then
on each loop begins at most one pass and makes at most three steps, it ends when it looks next, and one that is
started later begins no pass at all.  A loop that has not ended either waits for its pass, which is under
way, or can make one of these steps. -/
theorem loops_live_until_shutdown (hstart : start.IsNew) (hrun : Run p start trace o) (htime : o.InTime) :
    (start.system.router.interval.isZero = true →
      o.tasks = [] ∧ Step p o (.refused Service.zeroInterval) o ∧
        ∀ l o', Step p o l o' → l.isStart = true → l = .refused Service.zeroInterval ∧ o' = o) ∧
    (Label.shutdown ∉ trace → ∀ t ∈ o.tasks, t.hasEnded = false) ∧
    ∀ before after, trace = before ++ .shutdown :: after → ∀ k,
      after.countP (·.isPassOf k) ≤ 1 ∧ after.countP (·.isOf k) ≤ 3 ∧
      (∀ during rest, after = during ++ .loop k .look :: rest →
        (∃ t, o.tasks[k]? = some t ∧ t.hasEnded = true) ∧ ∀ act, Label.loop k act ∉ rest) ∧
      (Label.started k ∈ after → ∀ i, Label.loop k (.refresh i) ∉ trace) ∧
      ∀ t, o.tasks[k]? = some t → t.hasEnded = false →
        (∃ i, t.call? = some i ∧ (o.system.calls i).hasReturned = false ∧
          (o.system.calls i).isCancelled = false) ∨
        ∃ act o', act.isPass = false ∧ Step p o (.loop k act) o' := by
  refine ⟨?_, fun hnone t ht => hstart.hasEnded_eq_false hrun htime hnone ht, ?_⟩
  · intro hzero
    have hstill : o.system.router.interval.isZero = true := by
      rw [hrun.interval_eq]
      exact hzero
    exact ⟨hrun.tasks_eq_nil hstart.tasks hzero, .refuse hstill,
      fun l o' hstep hl => hstep.eq_refused hstill hl⟩
  · rintro before after rfl k
    obtain ⟨told, hbefore, hrest⟩ := hrun.split
    obtain ⟨mid, hshutdown, hafter⟩ := hrest.cons_inv
    have hraised : mid.stop.raised = true := by
      cases hshutdown
      rfl
    refine ⟨?_, ?_, ?_, ?_, ?_⟩
    · have hbound := hafter.countP_isPassOf_le hraised k
      have hone := mid.passesLeft_le k
      omega
    · have hbound := hafter.countP_isOf_le hraised k
      have hthree := mid.stepsLeft_le k
      omega
    · rintro during rest rfl
      obtain ⟨looking, hduring, hlook⟩ := hafter.split
      exact hlook.hasEnded_of_look (hduring.raised hraised)
    · intro hstarted i hmem
      obtain ⟨hnone, hlate⟩ := hafter.not_mem_of_started hraised hstarted
      rcases List.mem_append.1 hmem with hmem | hmem
      · exact hbefore.not_mem_of_tasks_eq_none (hshutdown.tasks_eq_none hnone) _ hmem
      · rcases List.mem_cons.1 hmem with heq | hmem
        · cases heq
        · exact hlate i hmem
    · intro t ht hended
      have horderly := hstart.isOrderly_run hrun htime
      exact horderly.exists_step p (hafter.raised hraised) ht hended

/-- A router whose loops are due every ten nanoseconds. -/
def ticking (now : Nat) : System :=
  System.idle { locators := [], strategy := .roundRobin, affinity := ⟨[], none⟩, interval := ⟨10⟩ } now

/-- No loop was started on it yet. -/
def unstarted : Operation := { system := ticking 0 }

/-- All loops are told to end when the first one is due, which still makes its pass.  A second loop is started
meanwhile. -/
theorem run_late :
    ∃ before during rest o,
      Run {} unstarted (before ++ .shutdown :: (during ++ .loop 0 .look :: rest)) o ∧ o.InTime ∧
        .loop 0 (.refresh 0) ∈ during ∧ .started 1 ∈ during ∧ .loop 1 .look ∈ rest := by
  have h1 : Run {} unstarted _ ⟨ticking 0, {}, [.spawned 0]⟩ := Run.nil.snoc (.start rfl)
  have h2 : Run {} unstarted _ ⟨ticking 0, {}, [.running ⟨10, 0, .looking⟩]⟩ :=
    h1.snoc (.loop_of_not_isPass (k := 0) rfl (.wake rfl) rfl)
  have h3 : Run {} unstarted _ ⟨ticking 0, {}, [.running ⟨10, 0, .waiting⟩]⟩ :=
    h2.snoc (.loop_of_not_isPass (k := 0) rfl (.look rfl) rfl)
  have h4 : Run {} unstarted _ ⟨ticking 10, {}, [.running ⟨10, 0, .waiting⟩]⟩ :=
    h3.snoc (.tick 10)
  have h5 : Run {} ⟨ticking 10, ⟨true, 1⟩, [.running ⟨10, 0, .waiting⟩]⟩ _
      ⟨ticking 10, ⟨true, 1⟩, [.refreshing ⟨20, 0, .passing⟩ 0]⟩ :=
    Run.nil.snoc (.loop (k := 0) rfl (.refresh rfl rfl) (by simp [LoopTask.call?]))
  have h6 : Run {} _ _ ⟨ticking 10, ⟨true, 1⟩, [.refreshing ⟨20, 0, .passing⟩ 0, .spawned 1]⟩ :=
    h5.snoc (.start rfl)
  -- the pass is a refresh in which nobody else moves
  obtain ⟨pass, hpass, hkept⟩ :=
    System.run_refresh (p := {}) (s := ticking 10) (i := 0) (.down "unreachable") rfl rfl
  have h7 := h6.append (.ofSystem hpass hkept)
  generalize hrefreshed : System.moveCall _ _ _ _ = refreshed at h7
  have hcall : refreshed.calls 0 = .performed := by
    rw [← hrefreshed]
    exact System.calls_moveCall_self _ _ _ _
  have hdue : RefreshLoop.firstDue refreshed.now refreshed.router.interval = some 20 := by
    rw [h7.interval_eq, ← hrefreshed]
    rfl
  have h8 : Run {} _ _ ⟨refreshed, ⟨true, 1⟩, [.running ⟨20, 0, .looking⟩, .spawned 1]⟩ :=
    h7.snoc (.loop_of_not_isPass (k := 0) rfl (.proceed (by rw [hcall]; rfl)) rfl)
  have h9 : Run {} ⟨refreshed, ⟨true, 1⟩, [.running ⟨20, 0, .ended⟩, .spawned 1]⟩ _
      ⟨refreshed, ⟨true, 1⟩, [.running ⟨20, 0, .ended⟩, .running ⟨20, 1, .looking⟩]⟩ :=
    Run.nil.snoc (.loop_of_not_isPass (k := 1) rfl (.wake hdue) rfl)
  have h10 : Run {} _ _ ⟨refreshed, ⟨true, 1⟩, [.running ⟨20, 0, .ended⟩, .running ⟨20, 1, .ended⟩]⟩ :=
    h9.snoc (.loop_of_not_isPass (k := 1) rfl (.look rfl) rfl)
  have hlook : Step {} ⟨refreshed, ⟨true, 1⟩, [.running ⟨20, 0, .looking⟩, .spawned 1]⟩ (.loop 0 .look)
      ⟨refreshed, ⟨true, 1⟩, [.running ⟨20, 0, .ended⟩, .spawned 1]⟩ :=
    .loop_of_not_isPass (k := 0) rfl (.look rfl) rfl
  refine ⟨_, _, _, _, h4.append (.cons .shutdown (h8.append (.cons hlook h10))), ?_, ?_, ?_, ?_⟩
  · rw [InTime, hdue]
    exact Option.some_ne_none 20
  · simp
  · simp
  · simp

/-- The first loop makes one pass and the second one none, and the first one has ended. -/
theorem loops_live_until_shutdown_late :
    ∃ before during rest o,
      Run {} unstarted (before ++ .shutdown :: (during ++ .loop 0 .look :: rest)) o ∧
        (during ++ .loop 0 .look :: rest).countP (·.isPassOf 0) = 1 ∧
        (∃ t, o.tasks[0]? = some t ∧ t.hasEnded = true) ∧
        ∀ i, .loop 1 (.refresh i) ∉ before ++ .shutdown :: (during ++ .loop 0 .look :: rest) := by
  obtain ⟨before, during, rest, o, hrun, htime, hpass, hstarted, -⟩ := run_late
  obtain ⟨-, -, hafter⟩ := loops_live_until_shutdown ⟨rfl, rfl⟩ hrun htime
  obtain ⟨hone, -, hends, -, -⟩ := hafter before _ rfl 0
  obtain ⟨-, -, -, hlate, -⟩ := hafter before _ rfl 1
  have hpos : 0 < (during ++ .loop 0 .look :: rest).countP (·.isPassOf 0) :=
    List.countP_pos_iff.2 ⟨_, List.mem_append_left _ hpass, rfl⟩
  exact ⟨before, during, rest, o, hrun, by omega, (hends during rest rfl).1,
    hlate (List.mem_append_left _ hstarted)⟩

end Operation

end Switchyard
