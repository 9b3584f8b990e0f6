/-
What can happen while a service waits.

Between two attempts of a request a number is drawn, the clock moves on, and the refresh loops that are due
make their passes.  `Waits` says so in terms of single events, and `waits_sleep` that a wait is made of nothing else.
So a wait leaves the transport alone, and a client is bound after it as it was before, unless a loop has
dropped its binding meanwhile (`Waits.get?_cases`).
-/
import Switchyard.Proofs.Router.Refresh
import Switchyard.Service

namespace Switchyard

namespace Service

variable {σ τ : Type}

/-! ## Events of a wait -/

/-- What a service can become by events of a wait, in any order. -/
inductive Waits (s : Service τ) : Service τ → Prop
  | refl : Waits s s
  | report {s' : Service τ} (h : Waits s s') (events : List Event) : Waits s (s'.report events)
  | refresh {s' : Service τ} (h : Waits s s') (hloops : s'.loops ≠ []) : Waits s s'.refresh.2
  | tick {s' : Service τ} (h : Waits s s') (wake : Nat) : Waits s { s' with now := max s'.now wake }
  /-- Each loop takes note of what has happened to it. -/
  | note {s' : Service τ} (h : Waits s s') {loops : List RefreshLoop}
      (hlength : loops.length = s'.loops.length) : Waits s { s' with loops }
  /-- Numbers are drawn for the waits. -/
  | draw {s' : Service τ} (h : Waits s s') (jitter : Nat → Double) : Waits s { s' with jitter }

theorem Waits.trans {s mid s' : Service τ} (h : s.Waits mid) (hnext : mid.Waits s') : s.Waits s' := by
  induction hnext with
  | refl => exact h
  | report _ events ih => exact ih.report events
  | refresh _ hloops ih => exact ih.refresh hloops
  | tick _ wake ih => exact ih.tick wake
  | note _ hlength ih => exact ih.note hlength
  | draw _ jitter ih => exact ih.draw jitter

theorem waits_pass {s : Service τ} (hloops : s.loops ≠ []) (l : RefreshLoop) :
    s.Waits (s.pass l).2 :=
  ((Waits.refl.refresh hloops).report _).report _

/-- If each step of a loop is made of events of a wait, so is a round of all of them. -/
theorem waits_eachLoop (step : Service τ → RefreshLoop → RefreshLoop × Service τ)
    (hstep : ∀ s l, s.loops ≠ [] → s.Waits (step s l).2 ∧ (step s l).2.loops = s.loops)
    (s : Service τ) (ls : List RefreshLoop) (hls : ls ≠ [] → s.loops ≠ []) :
    s.Waits (eachLoop step s ls).2 ∧ (eachLoop step s ls).2.loops = s.loops ∧
      (eachLoop step s ls).1.length = ls.length := by
  induction ls generalizing s with
  | nil => exact ⟨.refl, rfl, rfl⟩
  | cons l ls ih =>
    have hloops := hls (List.cons_ne_nil l ls)
    obtain ⟨hfirst, hsame⟩ := hstep s l hloops
    obtain ⟨hrest, hkept, hlength⟩ := ih (step s l).2 fun _ => hsame ▸ hloops
    exact ⟨hfirst.trans hrest, hkept.trans hsame, congrArg (· + 1) hlength⟩

theorem waits_settle (s : Service τ) : s.Waits s.settle := by
  have hround := waits_eachLoop (fun s l => if l.isDue s.now then s.pass l else (l, s)) ?_
    s s.loops id
  · obtain ⟨hwaits, hkept, hlength⟩ := hround
    exact hwaits.note (hlength.trans (congrArg List.length hkept.symm))
  · intro s l hloops
    by_cases hdue : l.isDue s.now = true
    · simp only [hdue, if_true]
      exact ⟨waits_pass hloops l, rfl⟩
    · simp only [hdue]
      exact ⟨.refl, rfl⟩

theorem waits_sleepUntil (wake fuel : Nat) (s : Service τ) : s.Waits (s.sleepUntil wake fuel) := by
  induction fuel generalizing s with
  | zero => exact (Waits.refl.tick wake).trans (waits_settle _)
  | succ fuel ih =>
    rw [sleepUntil]
    split
    · rename_i due _
      split
      · exact ((Waits.refl.tick due).trans (waits_settle _)).trans (ih _)
      · exact Waits.refl.tick wake
    · exact Waits.refl.tick wake

theorem waits_sleep (d : Duration) (s : Service τ) : s.Waits (s.sleep d) := waits_sleepUntil _ _ s

/-! ## What a wait leaves alone -/

namespace Waits

variable {s s' : Service τ}

theorem transport_eq (h : s.Waits s') : s'.transport = s.transport ∧ s'.memory = s.memory := by
  induction h with
  | refl => exact ⟨rfl, rfl⟩
  | _ => assumption

theorem length_loops (h : s.Waits s') : s'.loops.length = s.loops.length := by
  induction h with
  | refl => rfl
  | note _ hlength ih => exact hlength.trans ih
  | _ => assumption

/-- Passes only ever drop bindings, and without loops there are none. -/
theorem get?_cases (h : s.Waits s') (key : String) :
    s'.router.bindings.get? key = s.router.bindings.get? key ∨
      (s.loops ≠ [] ∧ s'.router.bindings.get? key = none) := by
  induction h with
  | refl => exact Or.inl rfl
  | report _ _ ih => exact ih
  | tick _ _ ih => exact ih
  | note _ _ ih => exact ih
  | draw _ _ ih => exact ih
  | @refresh s' h hsome ih =>
    have hloops : s.loops ≠ [] := by
      rw [← List.length_pos_iff, ← h.length_loops]
      exact List.length_pos_iff.2 hsome
    rcases s'.router.get?_refresh s'.network s'.now key with hsame | hnone
    · rcases ih with ih | ⟨-, ih⟩
      · exact Or.inl (hsame.trans ih)
      · exact Or.inr ⟨hloops, hsame.trans ih⟩
    · exact Or.inr ⟨hloops, hnone⟩

end Waits

/-! ## Other transports -/

/-- The same service with another transport. -/
def withTransport (s : Service τ) (t : Transport σ) (memory : σ) : Service σ :=
  { router := s.router, network := s.network, transport := t, memory, now := s.now
    loops := s.loops, stop := s.stop, log := s.log, jitter := s.jitter }

section WithTransport

variable (t : Transport σ) (memory : σ)

theorem eachLoop_withTransport (step : Service τ → RefreshLoop → RefreshLoop × Service τ)
    (step' : Service σ → RefreshLoop → RefreshLoop × Service σ)
    (hstep : ∀ s l, step' (s.withTransport t memory) l =
      ((step s l).1, (step s l).2.withTransport t memory))
    (s : Service τ) (ls : List RefreshLoop) :
    eachLoop step' (s.withTransport t memory) ls =
      ((eachLoop step s ls).1, (eachLoop step s ls).2.withTransport t memory) := by
  induction ls generalizing s with
  | nil => rfl
  | cons l ls ih =>
    simp only [eachLoop]
    rw [hstep]
    simp only
    rw [ih]

theorem settle_withTransport (s : Service τ) :
    (s.withTransport t memory).settle = s.settle.withTransport t memory := by
  have hround := eachLoop_withTransport t memory (fun s l => if l.isDue s.now then s.pass l else (l, s))
    (fun s l => if l.isDue s.now then s.pass l else (l, s)) ?_ s s.loops
  · have hloops : (s.withTransport t memory).loops = s.loops := rfl
    rw [settle, overLoops, hloops, hround]
    rfl
  · intro s l
    show (if l.isDue s.now then (s.withTransport t memory).pass l else (l, s.withTransport t memory)) = _
    split <;> rfl

theorem sleepUntil_withTransport (wake fuel : Nat) (s : Service τ) :
    (s.withTransport t memory).sleepUntil wake fuel = (s.sleepUntil wake fuel).withTransport t memory := by
  induction fuel generalizing s with
  | zero => exact settle_withTransport t memory { s with now := max s.now wake }
  | succ fuel ih =>
    have hloops : (s.withTransport t memory).loops = s.loops := rfl
    rw [sleepUntil, sleepUntil, hloops]
    cases earliest s.loops with
    | none => rfl
    | some due =>
      simp only
      split
      · rw [← ih, ← settle_withTransport]
        rfl
      · rfl

/-- No wait looks at the transport. -/
theorem sleep_withTransport (d : Duration) (s : Service τ) :
    (s.withTransport t memory).sleep d = (s.sleep d).withTransport t memory :=
  sleepUntil_withTransport t memory _ _ s

end WithTransport

end Service

end Switchyard
