/-
Which refresh loops outlive their start.

Starting a loop says nothing about its first pass, whose time is computed only once the loop runs for the first
time.  If there is no such time, the loop dies, and nobody is told: it never makes a step again (`Run.isDead`).
Otherwise it runs until loops are told to end (`Run.isAlive`); up to its first pass it looks or waits for that
time, and it can always go on to the pass (`IsAlive.exists_pass`).  `first_pass_decides` says which it is for an
interval that validation accepts.
-/
import Switchyard.Proofs.Concurrent.Lifecycle
import Switchyard.Proofs.Config.Construction

namespace Switchyard

/-! ## The first pass -/

namespace RefreshLoop

variable {now due : Nat} {interval : Duration}

theorem firstDue_eq_some_iff : firstDue now interval = some due ↔
    due = now + interval.nanos ∧ (now + interval.nanos) / 1000000000 ≤ lastSecond := by
  rw [firstDue]
  by_cases htime : (now + interval.nanos) / 1000000000 ≤ lastSecond
  · simp [htime, eq_comm]
  · simp [htime]

end RefreshLoop

namespace Config

variable {c : Config} {now due : Nat}

/-- The first pass of a loop that runs for the first time now lies within time. -/
def FirstPassFits (c : Config) (now : Nat) : Prop :=
  now / 1000000000 + c.refreshSeconds ≤ RefreshLoop.lastSecond

instance : Decidable (c.FirstPassFits now) := Nat.decLe _ _

theorem firstDue_interval_eq_some_iff : RefreshLoop.firstDue now c.interval = some due ↔
    due = now + c.interval.nanos ∧ c.FirstPassFits now := by
  have hseconds : (now + c.interval.nanos) / 1000000000 = now / 1000000000 + c.refreshSeconds :=
    Nat.add_mul_div_right now c.refreshSeconds (by decide)
  rw [RefreshLoop.firstDue_eq_some_iff, hseconds, FirstPassFits]

theorem firstDue_interval_eq_none_iff :
    RefreshLoop.firstDue now c.interval = none ↔ ¬ c.FirstPassFits now := by
  rw [Option.eq_none_iff_forall_ne_some]
  simp [firstDue_interval_eq_some_iff]

end Config

/-! ## One loop -/

namespace LoopTask

variable {s : System} {stop : StopSignal} {t t' : LoopTask} {act : Act} {due : Nat}

/-- The loop has run for the first time and goes on. -/
def IsRunning : LoopTask → Prop
  | spawned _ => False
  | running l => l.phase = .looking ∨ l.phase = .waiting
  | refreshing _ _ => True

/-- The loop looks or waits, and its next pass is due then. -/
def Awaits (due : Nat) : LoopTask → Prop
  | running l => l.due = due ∧ (l.phase = .looking ∨ l.phase = .waiting)
  | _ => False

theorem Awaits.isRunning (h : t.Awaits due) : t.IsRunning := by
  cases t with
  | running l => exact h.2
  | spawned | refreshing => exact h.elim

/-- A loop that has ended makes no step. -/
theorem Step.hasEnded_eq_false (h : Step s stop t act t') : t.hasEnded = false := by
  cases h with
  | wake | die | proceed => rfl
  | look hphase => simp [hasEnded, RefreshLoop.hasEnded, hphase]
  | refresh hdue =>
    rw [RefreshLoop.isDue, Bool.and_eq_true, decide_eq_true_eq] at hdue
    simp [hasEnded, RefreshLoop.hasEnded, hdue.1]
  | note htold =>
    rw [RefreshLoop.isTold, Bool.and_eq_true, decide_eq_true_eq] at htold
    simp [hasEnded, RefreshLoop.hasEnded, htold.1]

theorem look_of_not_raised {l : RefreshLoop} (hphase : l.phase = .looking) (hraised : stop.raised = false) :
    l.look stop = { l with phase := .waiting } := by
  rw [RefreshLoop.look, if_pos hphase, hraised]
  rfl

/-- As long as loops are not told to end, a running loop keeps running. -/
theorem IsRunning.step (ht : t.IsRunning) (h : Step s stop t act t') (hraised : stop.raised = false) :
    t'.IsRunning := by
  cases h with
  | wake | die => exact ht.elim
  | look hphase =>
    rw [look_of_not_raised hphase hraised]
    exact .inr rfl
  | refresh => trivial
  | proceed | note => exact .inl rfl

/-- A loop that awaits its pass goes on to await it, or begins it no earlier than it is due. -/
theorem Awaits.step (ht : t.Awaits due) (h : Step s stop t act t') (hraised : stop.raised = false) :
    (act.isPass = false ∧ t'.Awaits due) ∨ (act.isPass = true ∧ due ≤ s.now) := by
  cases h with
  | wake | die | proceed => exact ht.elim
  | look hphase =>
    rw [look_of_not_raised hphase hraised]
    exact .inl ⟨rfl, ht.1, .inr rfl⟩
  | refresh hdue =>
    rw [RefreshLoop.isDue, Bool.and_eq_true, decide_eq_true_eq, decide_eq_true_eq, ht.1] at hdue
    exact .inr ⟨rfl, hdue.2⟩
  | note => exact .inl ⟨rfl, ht.1, .inl rfl⟩

/-- A loop that was started runs for the first time, whatever comes of it. -/
theorem exists_wake (s : System) (stop : StopSignal) (seen : Nat) :
    ∃ t, Step s stop (spawned seen) .wake t := by
  cases hdue : RefreshLoop.firstDue s.now s.router.interval with
  | none => exact ⟨_, .die hdue⟩
  | some due => exact ⟨_, .wake hdue⟩

/-- What a loop is after it has run for the first time. -/
theorem Step.of_spawned {seen : Nat} (h : Step s stop (spawned seen) act t) :
    (∃ due, RefreshLoop.firstDue s.now s.router.interval = some due ∧ t.Awaits due) ∨
      (RefreshLoop.firstDue s.now s.router.interval = none ∧ t.hasEnded = true) := by
  cases h with
  | wake hdue => exact .inl ⟨_, hdue, rfl, .inl rfl⟩
  | die hdue => exact .inr ⟨hdue, rfl⟩

end LoopTask

namespace Operation

variable {p : Proxy} {start o o' : Operation} {l : Label} {trace after : List Label} {k n due : Nat}

/-- Only an interval of no length is refused. -/
theorem Step.ne_refused {message : String} (h : Step p o l o')
    (hlong : o.system.router.interval.isZero = false) : l ≠ .refused message := by
  rintro rfl
  cases h with
  | refuse hzero =>
    rw [hlong] at hzero
    cases hzero

theorem Label.not_mem_snoc {act : LoopTask.Act} (hother : l.isOf k = false) (hnone : .loop k act ∉ after) :
    .loop k act ∉ after ++ [l] := by
  intro hmem
  rcases List.mem_append.1 hmem with hmem | hmem
  · exact hnone hmem
  · rw [← List.mem_singleton.1 hmem] at hother
    simp [isOf] at hother

/-! ## Loops that have died -/

/-- The loop at a place has ended and made none of these steps. -/
def IsDead (o : Operation) (k : Nat) (after : List Label) : Prop :=
  (∃ t, o.tasks[k]? = some t ∧ t.hasEnded = true) ∧ ∀ act, .loop k act ∉ after

theorem IsDead.step (ho : o.IsDead k after) (h : Step p o l o') : o'.IsDead k (after ++ [l]) := by
  obtain ⟨⟨t, ht, hended⟩, hnone⟩ := ho
  rcases h.task_cases k with ⟨hother, -, hsame⟩ | ⟨act, t₁, t', -, ht₁, -, hstep⟩ | ⟨-, hfree, -⟩
  · exact ⟨⟨t, hsame.trans ht, hended⟩, fun act => Label.not_mem_snoc hother (hnone act)⟩
  · obtain rfl := Option.some.inj (ht.symm.trans ht₁)
    rw [hstep.hasEnded_eq_false] at hended
    cases hended
  · cases ht.symm.trans hfree

/-- A loop that has ended never makes a step again. -/
theorem Run.isDead (h : Run p o after o') (ho : o.IsDead k []) : o'.IsDead k after := by
  induction h with
  | nil => exact ho
  | snoc _ hstep ih => exact ih.step hstep

/-! ## Loops that live -/

/-- How far a loop is that runs and was to make its first pass at `due`, after some steps of all. -/
inductive IsAlive (o : Operation) (k due : Nat) (after : List Label) : Prop
  /-- It has made no pass and awaits the first. -/
  | awaiting {t : LoopTask} (ht : o.tasks[k]? = some t) (h : t.Awaits due)
      (hnone : ∀ i, .loop k (.refresh i) ∉ after)
  /-- It has made passes, and the first was due. -/
  | passed {t : LoopTask} {i : Nat} (ht : o.tasks[k]? = some t) (h : t.IsRunning)
      (hpass : .loop k (.refresh i) ∈ after) (hdue : due ≤ o.system.now)

/-- As long as loops are not told to end, a living loop lives on. -/
theorem IsAlive.step (ho : o.IsAlive k due after) (h : Step p o l o') (hraised : o.stop.raised = false) :
    o'.IsAlive k due (after ++ [l]) := by
  rcases h.task_cases k with ⟨hother, -, hsame⟩ | ⟨act, t₁, t', rfl, ht₁, ht', hstep⟩ | ⟨-, hfree, -⟩
  case inl =>
    -- somebody else moves, and time may pass
    cases ho with
    | awaiting ht hawaits hnone =>
      exact .awaiting (hsame.trans ht) hawaits fun i => Label.not_mem_snoc hother (hnone i)
    | passed ht hrunning hpass hdue =>
      exact .passed (hsame.trans ht) hrunning (List.mem_append_left _ hpass) (hdue.trans h.now_le)
  case inr.inl =>
    cases ho with
    | awaiting ht hawaits hnone =>
      obtain rfl := Option.some.inj (ht.symm.trans ht₁)
      rcases hawaits.step hstep hraised with ⟨hact, hawaits⟩ | ⟨hact, hdue⟩
      · refine .awaiting ht' hawaits fun i hmem => ?_
        rcases List.mem_append.1 hmem with hmem | hmem
        · exact hnone i hmem
        · cases List.mem_singleton.1 hmem
          cases hact
      · cases act with
        | refresh i =>
          exact .passed ht' (hawaits.isRunning.step hstep hraised)
            (List.mem_append_right _ (List.mem_singleton_self _)) (hdue.trans h.now_le)
        | _ => cases hact
    | passed ht hrunning hpass hdue =>
      obtain rfl := Option.some.inj (ht.symm.trans ht₁)
      exact .passed ht' (hrunning.step hstep hraised) (List.mem_append_left _ hpass) (hdue.trans h.now_le)
  case inr.inr =>
    cases ho with
    | awaiting ht | passed ht => cases ht.symm.trans hfree

/-- A loop that awaits its first pass lives until loops are told to end. -/
theorem Run.isAlive (h : Run p o after o') (ho : o.IsAlive k due []) (hraised : o.stop.raised = false)
    (hnone : .shutdown ∉ after) : o'.IsAlive k due after := by
  induction h with
  | nil => exact ho
  | snoc h hstep ih =>
    rw [List.mem_append, not_or] at hnone
    refine (ih hnone.1).step hstep ?_
    rw [h.stop_eq hnone.1]
    exact hraised

/-- When a loop runs for the first time, it comes to await its first pass, or it dies. -/
theorem Step.woken_cases {act : LoopTask.Act} {seen : Nat} (h : Step p o (.loop k act) o')
    (ht : o.tasks[k]? = some (.spawned seen)) :
    (∃ due, RefreshLoop.firstDue o.system.now o.system.router.interval = some due ∧ o'.IsAlive k due []) ∨
      (RefreshLoop.firstDue o.system.now o.system.router.interval = none ∧ o'.IsDead k []) := by
  rcases h.task_cases k with ⟨hother, -, -⟩ | ⟨act', t, t', -, ht₁, ht', hstep⟩ | ⟨hstart, -, -⟩
  · simp [Label.isOf] at hother
  · obtain rfl := Option.some.inj (ht.symm.trans ht₁)
    rcases hstep.of_spawned with ⟨due, hdue, hawaits⟩ | ⟨hdue, hended⟩
    · exact .inl ⟨due, hdue, .awaiting ht' hawaits fun _ => List.not_mem_nil⟩
    · exact .inr ⟨hdue, ⟨_, ht', hended⟩, fun _ => List.not_mem_nil⟩
  · cases hstart

/-! ## Going on to a pass -/

/-- The calls from this one on are still to be made, and no loop waits for one of them. -/
structure HasFresh (o : Operation) (n : Nat) : Prop where
  calls : ∀ i, n ≤ i → o.system.calls i = .fresh
  tasks : ∀ t ∈ o.tasks, ∀ i, t.call? = some i → i < n

theorem HasFresh.mono {m : Nat} (h : o.HasFresh n) (hle : n ≤ m) : o.HasFresh m :=
  ⟨fun i hi => h.calls i (hle.trans hi), fun t ht i hi => (h.tasks t ht i hi).trans_le hle⟩

theorem HasFresh.set (h : o.HasFresh n) {t : LoopTask} (ht : ∀ i, t.call? = some i → i < n) :
    HasFresh { o with tasks := o.tasks.set k t } n := by
  refine ⟨h.calls, fun u hu i hi => ?_⟩
  rcases List.mem_or_eq_of_mem_set hu with hu | rfl
  · exact h.tasks u hu i hi
  · exact ht i hi

theorem HasFresh.step (ho : o.HasFresh n) (h : Step p o l o') : ∃ m, o'.HasFresh m := by
  cases h with
  | refuse | shutdown => exact ⟨n, ho.calls, ho.tasks⟩
  | start =>
    refine ⟨n, ho.calls, fun t ht i hi => ?_⟩
    rcases List.mem_append.1 ht with ht | ht
    · exact ho.tasks t ht i hi
    · rw [List.mem_singleton.1 ht] at hi
      cases hi
  | @loop k t t' act ht h =>
    cases hcall : t'.call? with
    | none =>
      refine ⟨n, ho.set fun i hi => ?_⟩
      rw [hcall] at hi
      cases hi
    | some j =>
      refine ⟨max n (j + 1), (ho.mono (Nat.le_max_left _ _)).set fun i hi => ?_⟩
      rw [hcall] at hi
      obtain rfl := Option.some.inj hi
      exact Nat.lt_of_lt_of_le (Nat.lt_succ_self j) (Nat.le_max_right _ _)
  | system h =>
    cases h with
    | visit | tick => exact ⟨n, ho.calls, ho.tasks⟩
    | @call j =>
      have hlater := ho.mono (Nat.le_max_left n (j + 1))
      refine ⟨max n (j + 1), fun i hi => ?_, hlater.tasks⟩
      have hne : i ≠ j := fun heq => by omega
      rw [System.calls_moveCall_of_ne _ _ _ _ hne]
      exact hlater.calls i hi

theorem HasFresh.run (ho : o.HasFresh n) (h : Run p o after o') : ∃ m, o'.HasFresh m := by
  induction h with
  | nil => exact ⟨n, ho⟩
  | snoc _ hstep ih =>
    obtain ⟨m, hm⟩ := ih
    exact hm.step hstep

theorem IsNew.hasFresh (hstart : start.IsNew) (hidle : start.system.IsIdle) : start.HasFresh 0 := by
  refine ⟨fun i _ => hidle.calls i, fun t ht => ?_⟩
  rw [hstart.tasks] at ht
  cases ht

/-- A loop that awaits its pass gets to wait for it. -/
theorem exists_waiting {t : LoopTask} (ht : o.tasks[k]? = some t) (h : t.Awaits due)
    (hraised : o.stop.raised = false) (hfresh : o.HasFresh n) :
    ∃ rest o' l, Run p o rest o' ∧ .shutdown ∉ rest ∧ o'.HasFresh n ∧
      o'.tasks[k]? = some (.running l) ∧ l.due = due ∧ l.phase = .waiting := by
  cases t with
  | spawned | refreshing => exact h.elim
  | running l =>
    obtain ⟨hdue, hphase | hphase⟩ := h
    · have hlook : LoopTask.Step o.system o.stop (.running l) .look
          (.running { l with phase := .waiting }) := by
        rw [← LoopTask.look_of_not_raised hphase hraised]
        exact .look hphase
      have hplace : k < o.tasks.length := (List.getElem?_eq_some_iff.1 ht).1
      exact ⟨_, _, _, Run.nil.snoc (.loop_of_not_isPass ht hlook rfl), by simp, hfresh.set nofun,
        List.getElem?_set_self hplace, hdue, rfl⟩
    · exact ⟨[], o, l, .nil, List.not_mem_nil, hfresh, ht, hdue, hphase⟩

/-- A living loop that has made no pass can go on until it begins the first. -/
theorem IsAlive.exists_pass (h : o.IsAlive k due after) (hnopass : ∀ i, .loop k (.refresh i) ∉ after)
    (hraised : o.stop.raised = false) (hfresh : o.HasFresh n) :
    ∃ rest o' i, Run p o (rest ++ [.loop k (.refresh i)]) o' ∧ .shutdown ∉ rest := by
  cases h with
  | passed _ _ hpass => exact absurd hpass (hnopass _)
  | awaiting ht hawaits =>
    obtain ⟨rest, o', l, hrun, hnone, hfresh, ht, hdue, hphase⟩ :=
      exists_waiting (p := p) ht hawaits hraised hfresh
    -- time passes until the pass is due, and the pass is a call that nobody has made
    have hlater := hrun.snoc (.tick (due - o'.system.now))
    have hready : l.isDue (o'.system.now + (due - o'.system.now)) = true := by
      rw [RefreshLoop.isDue, hphase, hdue]
      simp only [decide_true, Bool.true_and, decide_eq_true_eq]
      omega
    have hown : ∀ u ∈ o'.tasks, ∀ i, u.call? = some i → LoopTask.Act.refresh n ≠ .refresh i := by
      intro u hu i hi heq
      have hlt := hfresh.tasks u hu i hi
      rw [LoopTask.Act.refresh.inj heq] at hlt
      exact Nat.lt_irrefl i hlt
    refine ⟨_, _, n, hlater.snoc (.loop ht (.refresh hready (hfresh.calls n (Nat.le_refl n))) hown), ?_⟩
    simp [hnone]

end Operation

/-! ## Started services -/

/-- A loop that a service starts has ended or not when the start returns, unless loops were told to end. -/
theorem Service.lastEnded_start {τ : Type} {s : Service τ} (hlong : s.router.interval.isZero = false)
    (hraised : s.stop.raised = false) : ∃ started, s.start = .ok started ∧
      started.lastEnded = some (RefreshLoop.firstDue s.now s.router.interval).isNone := by
  rw [start, if_neg (Bool.eq_false_iff.1 hlong)]
  cases hdue : RefreshLoop.firstDue s.now s.router.interval with
  | none => exact ⟨_, rfl, by simp [lastEnded, RefreshLoop.hasEnded]⟩
  | some due =>
    refine ⟨_, rfl, ?_⟩
    simp [lastEnded, report, RefreshLoop.hasEnded, RefreshLoop.fresh, RefreshLoop.look, hraised]

namespace Operation

/-- **The first pass decides whether a loop lives.**  No start is refused with the interval of an accepted
configuration, and each loop runs for the first time.  Its first pass is due one interval later if the seconds
of both add up to a time at all.  Exactly then the loop lives: until loops are told to end it does not end,
it begins no pass before the first is due, and it can go on to that pass.  Otherwise it is dead from its first
step on, and the start has not told anybody. -/
theorem first_pass_decides {c : Config} (hvalid : c.validate = .ok ()) :
    (∀ now due, RefreshLoop.firstDue now c.interval = some due ↔
      due = now + c.interval.nanos ∧ now / 1000000000 + c.refreshSeconds ≤ RefreshLoop.lastSecond) ∧
    (∀ (τ : Type) (s : Service τ), s.router.interval = c.interval → s.stop.raised = false →
      ∃ started, s.start = .ok started ∧ (started.lastEnded = some false ↔ c.FirstPassFits s.now) ∧
        (started.lastEnded = some true ↔ ¬ c.FirstPassFits s.now)) ∧
    ∀ (p : Proxy) (start o : Operation) (trace : List Label), start.IsNew → start.system.IsIdle →
      start.system.router.interval = c.interval → Run p start trace o →
      (∀ message o', ¬ Step p o (.refused message) o') ∧
      ∀ k seen, o.tasks[k]? = some (.spawned seen) →
        (∃ woken, Step p o (.loop k .wake) woken) ∧
        ∀ act woken after later, Step p o (.loop k act) woken → Run p woken after later →
          (c.FirstPassFits o.system.now → .shutdown ∉ trace ++ after →
            later.IsAlive k (o.system.now + c.interval.nanos) after ∧
            ((∀ i, .loop k (.refresh i) ∉ after) → ∃ rest passing i,
              Run p later (rest ++ [.loop k (.refresh i)]) passing ∧ .shutdown ∉ rest)) ∧
          (¬ c.FirstPassFits o.system.now → later.IsDead k after) := by
  have hlong : c.interval.isZero = false := by
    rw [Bool.eq_false_iff, ne_eq, Config.isZero_interval]
    exact Nat.ne_of_gt (Config.validate_eq_ok.1 hvalid).interval
  refine ⟨fun now due => Config.firstDue_interval_eq_some_iff, ?_, ?_⟩
  · intro τ s hinterval hraised
    obtain ⟨started, hstarted, hended⟩ := Service.lastEnded_start (hinterval ▸ hlong) hraised
    refine ⟨started, hstarted, ?_⟩
    rw [hinterval] at hended
    cases hdue : RefreshLoop.firstDue s.now c.interval with
    | none => simp [hended, hdue, Config.firstDue_interval_eq_none_iff.1 hdue]
    | some due => simp [hended, hdue, (Config.firstDue_interval_eq_some_iff.1 hdue).2]
  · intro p start o trace hstart hidle hinterval hrun
    have hkept : o.system.router.interval = c.interval := hrun.interval_eq.trans hinterval
    rw [← hkept] at hlong
    refine ⟨fun message o' hstep => hstep.ne_refused hlong rfl, fun k seen ht => ⟨?_, ?_⟩⟩
    · obtain ⟨t, hwake⟩ := LoopTask.exists_wake o.system o.stop seen
      exact ⟨_, .loop_of_not_isPass ht hwake rfl⟩
    · intro act woken after later hstep hafter
      have hwoken := hstep.woken_cases ht
      rw [hkept] at hwoken
      refine ⟨fun hfits hnone => ?_, fun hlate => ?_⟩
      · rw [List.mem_append, not_or] at hnone
        obtain ⟨due, hdue, hwoken⟩ | ⟨hdue, -⟩ := hwoken
        case inr => exact absurd hfits (Config.firstDue_interval_eq_none_iff.1 hdue)
        obtain ⟨rfl, -⟩ := Config.firstDue_interval_eq_some_iff.1 hdue
        have hfirst := hrun.snoc hstep
        have hall := hfirst.append hafter
        have halive := hafter.isAlive hwoken (hstart.raised_eq_false hfirst (by simp [hnone.1])) hnone.2
        obtain ⟨n, hfresh⟩ := (hstart.hasFresh hidle).run hall
        have hraised := hstart.raised_eq_false hall (by simp [hnone.1, hnone.2])
        exact ⟨halive, fun hnopass => halive.exists_pass hnopass hraised hfresh⟩
      · rcases hwoken with ⟨due, hdue, -⟩ | ⟨-, hdead⟩
        · exact absurd (Config.firstDue_interval_eq_some_iff.1 hdue).2 hlate
        · exact hafter.isDead hdead

/-- The longest interval that is ever in time. -/
def farthest : Config := { refreshSeconds := RefreshLoop.lastSecond }

/-- A router of that configuration that nobody has used yet. -/
def unhurried (now : Nat) : System :=
  System.idle
    { locators := [], strategy := .random, affinity := ⟨[], none⟩, interval := farthest.interval } now

/-- A loop that runs within the first second lives on through its first pass, and one that runs later is dead,
though both are started. -/
theorem first_pass_decides_farthest :
    Router.ofConfig farthest = .ok (unhurried 0).router ∧
    (∃ after later i, Run {} ⟨unhurried 0, {}, []⟩
        ([.system (.tick 999999999), .started 0, .loop 0 .wake] ++ (after ++ [.loop 0 (.refresh i)])) later ∧
      later.IsAlive 0 (999999999 + farthest.interval.nanos) (after ++ [.loop 0 (.refresh i)])) ∧
    (∃ later, Run {} ⟨unhurried 0, {}, []⟩
        [.started 0, .system (.tick 1000000000), .loop 0 .wake] later ∧ later.IsDead 0 []) ∧
    ∃ started, { restlessService with router := (unhurried 0).router }.start = .ok started ∧
      started.lastEnded = some false := by
  have hvalid : farthest.validate = .ok () := rfl
  have hidle : (unhurried 0).IsIdle := System.isIdle_idle rfl rfl
  obtain ⟨-, hservice, hloops⟩ := first_pass_decides hvalid
  refine ⟨rfl, ?early, ?late, ?service⟩
  case early =>
    have h1 : Run {} ⟨unhurried 0, {}, []⟩ _ ⟨unhurried 999999999, {}, []⟩ := Run.nil.snoc (.tick 999999999)
    have h2 : Run {} _ _ ⟨unhurried 999999999, {}, [.spawned 0]⟩ := h1.snoc (.start rfl)
    obtain ⟨-, hloop⟩ := hloops _ _ _ _ ⟨rfl, rfl⟩ hidle rfl h2
    obtain ⟨⟨woken, hwake⟩, hfate⟩ := hloop 0 0 rfl
    have hfits : farthest.FirstPassFits 999999999 := by decide
    obtain ⟨-, hpasses⟩ := (hfate _ _ _ _ hwake .nil).1 hfits (by simp)
    obtain ⟨after, later, i, hrun, hnone⟩ := hpasses (by simp)
    obtain ⟨hlives, -⟩ := (hfate _ _ _ _ hwake hrun).1 hfits (by simp [hnone])
    exact ⟨after, later, i, (h2.snoc hwake).append hrun, hlives⟩
  case late =>
    have h1 : Run {} ⟨unhurried 0, {}, []⟩ _ ⟨unhurried 0, {}, [.spawned 0]⟩ := Run.nil.snoc (.start rfl)
    have h2 : Run {} _ _ ⟨unhurried 1000000000, {}, [.spawned 0]⟩ := h1.snoc (.tick 1000000000)
    obtain ⟨-, hloop⟩ := hloops _ _ _ _ ⟨rfl, rfl⟩ hidle rfl h2
    obtain ⟨⟨woken, hwake⟩, hfate⟩ := hloop 0 0 rfl
    obtain ⟨-, hdies⟩ := hfate _ _ _ _ hwake .nil
    exact ⟨woken, h2.snoc hwake, hdies (by decide)⟩
  case service =>
    obtain ⟨started, hstarted, hlives, -⟩ :=
      hservice Unit { restlessService with router := (unhurried 0).router } rfl rfl
    exact ⟨started, hstarted, hlives.2 (by decide)⟩

/-- The longest interval that can be configured. -/
def slowest : Config := { refreshSeconds := UInt64.size - 1 }

/-- It is accepted, and the loop is started, but it has ended already. -/
theorem accepted_interval_dies :
    slowest.validate = .ok () ∧ ∃ service started,
      Service.ofConfig slowest restlessService.network restlessService.transport () = .ok service ∧
      RefreshLoop.firstDue service.now service.router.interval = none ∧
      service.start = .ok started ∧ started.stop.raised = false ∧ started.lastEnded = some true :=
  ⟨rfl, _, _, rfl, rfl, rfl, rfl, rfl⟩

end Operation

end Switchyard
