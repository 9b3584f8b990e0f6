/-
Refresh loops, among refreshes and requests.

An `Operation` is a system together with the loops that were started on its router and with what these have
been told.  Its steps are those of the system, those of the loops, and the calls that start a loop or tell
all of them to end.  A loop that was started does nothing before it runs for the first time, and its passes
are calls like any other, which may have to wait for another one's turn.

The lemmas say once what a step can do: to one of the loops (`Step.task_cases`), to what they are told
(`Step.stop_cases`), and to the clock and the interval (`Step.now_le`, `Step.interval_eq`).
-/
import Switchyard.Proofs.Concurrent.System
import Switchyard.Service

namespace Switchyard

/-! ## One loop -/

/-- The call has returned to whoever made it. -/
def Call.hasReturned : Call → Bool
  | performed | joined => true
  | _ => false

/-- How far a loop has come that was started. -/
inductive LoopTask where
  /-- Is still to run for the first time, and counts as told so often. -/
  | spawned (seen : Nat)
  | running (l : RefreshLoop)
  /-- Waits for its pass, which is this call, to return. -/
  | refreshing (l : RefreshLoop) (call : Nat)

namespace LoopTask

/-- The call that the loop waits for. -/
def call? : LoopTask → Option Nat
  | refreshing _ i => some i
  | _ => none

def hasEnded : LoopTask → Bool
  | running l => l.hasEnded
  | _ => false

/-- What a step of a loop does. -/
inductive Act where
  /-- Runs for the first time. -/
  | wake
  /-- Looks whether it is to end. -/
  | look
  /-- Begins a pass. -/
  | refresh (call : Nat)
  /-- Goes on after its pass. -/
  | proceed
  /-- Takes note of what it has been told. -/
  | note

/-- The loop begins a pass. -/
def Act.isPass : Act → Bool
  | refresh _ => true
  | _ => false

/-- One step of a loop in a system. -/
inductive Step (s : System) (stop : StopSignal) : LoopTask → Act → LoopTask → Prop
  | wake {seen due : Nat} (h : RefreshLoop.firstDue s.now s.router.interval = some due) :
      Step s stop (spawned seen) .wake (running { due, seen })
  /-- The first pass lies beyond the end of time, and the loop dies. -/
  | die {seen : Nat} (h : RefreshLoop.firstDue s.now s.router.interval = none) :
      Step s stop (spawned seen) .wake (running { due := s.now, seen, phase := .ended })
  | look {l : RefreshLoop} (h : l.phase = .looking) :
      Step s stop (running l) .look (running (l.look stop))
  | refresh {l : RefreshLoop} {i : Nat} (h : l.isDue s.now = true) (hi : s.calls i = .fresh) :
      Step s stop (running l) (.refresh i) (refreshing (l.beginPass s.router.interval s.now) i)
  | proceed {l : RefreshLoop} {i : Nat} (h : (s.calls i).hasReturned = true) :
      Step s stop (refreshing l i) .proceed (running l.finishPass)
  | note {l : RefreshLoop} (h : l.isTold stop = true) :
      Step s stop (running l) .note (running (l.takeNote stop))

end LoopTask

/-! ## Operations -/

/-- A system with its refresh loops, in the order they were started, and what these have been told. -/
structure Operation where
  system : System
  stop : StopSignal := {}
  tasks : List LoopTask := []

namespace Operation

/-- What one step does, and who does it. -/
inductive Label where
  | system (l : Switchyard.Label)
  | loop (k : Nat) (act : LoopTask.Act)
  /-- A loop was started, and this is its place. -/
  | started (k : Nat)
  /-- No loop was started, and this is why. -/
  | refused (message : String)
  /-- All loops are told to end. -/
  | shutdown

namespace Label

/-- A loop was to be started. -/
def isStart : Label → Bool
  | started _ | refused _ => true
  | _ => false

/-- One of the loops moves by itself. -/
def isOf (k : Nat) : Label → Bool
  | loop j _ => j == k
  | _ => false

/-- One of the loops begins a pass. -/
def isPassOf (k : Nat) : Label → Bool
  | loop j act => j == k && act.isPass
  | _ => false

theorem isPassOf_eq_false {k : Nat} {l : Label} (h : l.isOf k = false) : l.isPassOf k = false := by
  cases l with
  | loop j act => exact Bool.and_eq_false_imp.2 fun hjk => absurd hjk (Bool.eq_false_iff.1 h)
  | _ => rfl

end Label

/-- One step of an operation, by anyone.  A pass of a loop is a call that nobody else makes, and nobody
cancels it. -/
inductive Step (p : Proxy) : Operation → Label → Operation → Prop
  | system {o : Operation} {l : Switchyard.Label} {s : System} (h : System.Step p o.system l s)
      (hkept : ∀ t ∈ o.tasks, ∀ i, t.call? = some i → l ≠ .call i .cancel) :
      Step p o (.system l) { o with system := s }
  | loop {o : Operation} {k : Nat} {t t' : LoopTask} {act : LoopTask.Act} (ht : o.tasks[k]? = some t)
      (h : LoopTask.Step o.system o.stop t act t')
      (hown : ∀ u ∈ o.tasks, ∀ i, u.call? = some i → act ≠ .refresh i) :
      Step p o (.loop k act) { o with tasks := o.tasks.set k t' }
  | start {o : Operation} (h : o.system.router.interval.isZero = false) :
      Step p o (.started o.tasks.length) { o with tasks := o.tasks ++ [.spawned o.stop.count] }
  | refuse {o : Operation} (h : o.system.router.interval.isZero = true) :
      Step p o (.refused Service.zeroInterval) o
  | shutdown {o : Operation} : Step p o .shutdown { o with stop := o.stop.raise }

/-- Steps in a row from some operation, in any order. -/
inductive Run (p : Proxy) (start : Operation) : List Label → Operation → Prop
  | nil : Run p start [] start
  | snoc {trace : List Label} {l : Label} {o o' : Operation} (h : Run p start trace o)
      (hstep : Step p o l o') : Run p start (trace ++ [l]) o'

/-- No loop was started yet, and none was told anything. -/
structure IsNew (o : Operation) : Prop where
  stop : o.stop = {}
  tasks : o.tasks = []

variable {p : Proxy} {start mid o o' : Operation} {l : Label} {trace before after : List Label}

theorem Run.append (hbefore : Run p start before mid) (hafter : Run p mid after o) :
    Run p start (before ++ after) o := by
  induction hafter with
  | nil =>
    rw [List.append_nil]
    exact hbefore
  | snoc _ hstep ih =>
    rw [← List.append_assoc]
    exact ih.snoc hstep

theorem Run.cons (hstep : Step p start l mid) (h : Run p mid after o) : Run p start (l :: after) o :=
  (Run.nil.snoc hstep).append h

/-- A run goes through an operation between any two parts of its trace. -/
theorem Run.split (h : Run p start (before ++ after) o) :
    ∃ mid, Run p start before mid ∧ Run p mid after o := by
  -- runs grow at their end, so the second part is taken off from there
  induction after using List.reverseRecOn generalizing o with
  | nil =>
    rw [List.append_nil] at h
    exact ⟨o, h, .nil⟩
  | append_singleton after l ih =>
    rw [← List.append_assoc] at h
    generalize htrace : before ++ after ++ [l] = trace at h
    cases h with
    | nil => simp at htrace
    | snoc h hstep =>
      obtain ⟨rfl, hl⟩ := List.append_inj' htrace rfl
      obtain rfl := List.singleton_inj.1 hl
      obtain ⟨mid, hbefore, hafter⟩ := ih h
      exact ⟨mid, hbefore, hafter.snoc hstep⟩

theorem Run.eq_of_nil (h : Run p start [] o) : o = start := by
  generalize htrace : [] = trace at h
  cases h with
  | nil => rfl
  | snoc => exact absurd htrace.symm (List.append_ne_nil_of_right_ne_nil _ (List.cons_ne_nil _ _))

/-- A run starts with the first step of its trace. -/
theorem Run.cons_inv (h : Run p start (l :: after) o) : ∃ mid, Step p start l mid ∧ Run p mid after o := by
  rw [← List.singleton_append] at h
  obtain ⟨mid, hfirst, hafter⟩ := h.split
  generalize htrace : [l] = trace at hfirst
  cases hfirst with
  | nil => cases htrace
  | snoc hempty hstep =>
    rcases List.append_eq_singleton_iff.1 htrace.symm with ⟨rfl, hl⟩ | ⟨-, hl⟩
    · obtain rfl := List.singleton_inj.1 hl
      rw [hempty.eq_of_nil] at hstep
      exact ⟨mid, hstep, hafter⟩
    · cases hl

/-- What a system does by itself, it does in an operation, as long as no call is cancelled. -/
theorem Run.ofSystem {s : System} {trace : List Switchyard.Label} (h : System.Run p o.system trace s)
    (hkept : ∀ i, .call i .cancel ∉ trace) : Run p o (trace.map .system) { o with system := s } := by
  induction h with
  | nil => exact .nil
  | @snoc trace l s s' _ hstep ih =>
    simp only [List.mem_append, List.mem_singleton, not_or] at hkept
    rw [List.map_append]
    refine (ih fun i => (hkept i).1).snoc (.system hstep ?_)
    rintro t - i - rfl
    exact (hkept i).2 rfl

theorem Step.tick (nanos : Nat) : Step p o (.system (.tick nanos))
    { o with system := { o.system with now := o.system.now + nanos } } := by
  refine .system (.tick nanos) ?_
  rintro t - i - ⟨⟩

/-- A step of a loop that begins no pass needs no call. -/
theorem Step.loop_of_not_isPass {k : Nat} {t t' : LoopTask} {act : LoopTask.Act}
    (ht : o.tasks[k]? = some t) (h : LoopTask.Step o.system o.stop t act t') (hact : act.isPass = false) :
    Step p o (.loop k act) { o with tasks := o.tasks.set k t' } := by
  refine .loop ht h ?_
  rintro u - i - rfl
  cases hact

/-! ## What a step does -/

/-- What a step does to the loop at some place: nothing, a step of that loop, or its start. -/
theorem Step.task_cases (h : Step p o l o') (k : Nat) :
    (l.isOf k = false ∧ l ≠ .started k ∧ o'.tasks[k]? = o.tasks[k]?) ∨
    (∃ act t t', l = .loop k act ∧ o.tasks[k]? = some t ∧ o'.tasks[k]? = some t' ∧
      LoopTask.Step o.system o.stop t act t') ∨
    (l = .started k ∧ o.tasks[k]? = none ∧ o'.tasks[k]? = some (.spawned o.stop.count)) := by
  cases h with
  | system | refuse | shutdown => exact Or.inl ⟨rfl, nofun, rfl⟩
  | @loop j t t' act ht h =>
    by_cases hjk : j = k
    · subst hjk
      have hj : j < o.tasks.length := (List.getElem?_eq_some_iff.1 ht).1
      exact Or.inr (Or.inl ⟨act, t, t', rfl, ht, List.getElem?_set_self hj, h⟩)
    · exact Or.inl ⟨by simpa [Label.isOf] using hjk, nofun, List.getElem?_set_ne hjk⟩
  | start =>
    by_cases hk : k = o.tasks.length
    · subst hk
      exact Or.inr (Or.inr ⟨rfl, List.getElem?_eq_none (Nat.le_refl _), List.getElem?_concat_length⟩)
    · -- the new loop stands behind all others, so any other place is as it was
      refine Or.inl ⟨rfl, fun heq => hk (Label.started.inj heq).symm, ?_⟩
      rcases Nat.lt_or_gt_of_ne hk with hlt | hgt
      · exact List.getElem?_append_left hlt
      · rw [List.getElem?_eq_none hgt.le, List.getElem?_eq_none (by rw [List.length_append]; exact hgt)]

/-- Loops are told to end, or what they are told stays as it was. -/
theorem Step.stop_cases (h : Step p o l o') :
    (l = .shutdown ∧ o'.stop = o.stop.raise) ∨ (l ≠ .shutdown ∧ o'.stop = o.stop) := by
  cases h with
  | shutdown => exact Or.inl ⟨rfl, rfl⟩
  | system | loop | start | refuse => exact Or.inr ⟨nofun, rfl⟩

end Operation

/-! ## The clock and the interval -/

theorem Visit.Step.interval_eq {p : Proxy} {now : Nat} {r r' : Router} {v v' : Visit} {act : Visit.Act}
    (h : Visit.Step p now r v act r' v') : r'.interval = r.interval := by
  cases h with
  | @conclude e q result =>
    cases result with
    | ok response => rfl
    | error source => rfl
  | _ => rfl

theorem System.Step.interval_eq {p : Proxy} {s s' : System} {l : Switchyard.Label}
    (h : System.Step p s l s') : s'.router.interval = s.router.interval := by
  cases h with
  | call _ h => exact h.frame.2.1
  | visit _ h => exact h.interval_eq
  | tick => rfl

theorem System.Step.now_le {p : Proxy} {s s' : System} {l : Switchyard.Label}
    (h : System.Step p s l s') : s.now ≤ s'.now := by
  cases h with
  | call | visit => exact Nat.le_refl _
  | tick nanos => exact Nat.le_add_right _ _

/-- What can be represented later can be represented earlier. -/
theorem RefreshLoop.firstDue_ne_none {now later : Nat} {interval : Duration} (hle : now ≤ later)
    (h : firstDue later interval ≠ none) : firstDue now interval ≠ none := by
  simp only [firstDue, ne_eq, ite_eq_right_iff, reduceCtorEq, imp_false, not_not] at h ⊢
  have hseconds : (now + interval.nanos) / 1000000000 ≤ (later + interval.nanos) / 1000000000 :=
    Nat.div_le_div_right (Nat.add_le_add_right hle _)
  exact hseconds.trans h

namespace Operation

variable {p : Proxy} {start mid o o' : Operation} {l : Label} {trace before after : List Label}

theorem Step.interval_eq (h : Step p o l o') :
    o'.system.router.interval = o.system.router.interval := by
  cases h with
  | system h => exact h.interval_eq
  | loop | start | refuse | shutdown => rfl

theorem Step.now_le (h : Step p o l o') : o.system.now ≤ o'.system.now := by
  cases h with
  | system h => exact h.now_le
  | loop | start | refuse | shutdown => exact Nat.le_refl _

theorem Run.interval_eq (h : Run p start trace o) :
    o.system.router.interval = start.system.router.interval := by
  induction h with
  | nil => rfl
  | snoc _ hstep ih => exact hstep.interval_eq.trans ih

/-- The first pass of a loop that is started now can be represented. -/
def InTime (o : Operation) : Prop :=
  RefreshLoop.firstDue o.system.now o.system.router.interval ≠ none

theorem Step.inTime (h : Step p o l o') (hlater : o'.InTime) : o.InTime := by
  rw [InTime, h.interval_eq] at hlater
  exact RefreshLoop.firstDue_ne_none h.now_le hlater

end Operation

end Switchyard
