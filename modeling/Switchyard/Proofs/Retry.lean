/-
One attempt of the retry loop.

An attempt succeeds, fails for good, is the last one, or is followed by another one after a wait.  Each
of the four has its equation; `runFrom_of_end` sums up the first three.
-/
import Switchyard.Retry

namespace Switchyard

namespace RetryPolicy

variable {σ ε α : Type} {s : Surroundings σ ε α} {n : Nat} {before after : σ}

/-! ## Single attempts -/

namespace Surroundings

theorem attemptOnce_of_ok {value : α} (h : s.attempt before = (.ok value, after)) :
    s.attemptOnce n before = .ok (.ok value, after) := by
  rw [attemptOnce, h]

section Error

variable {error : ε} (h : s.attempt before = (.error error, after))
include h

/-- An error that is not worth another attempt is reported. -/
theorem attemptOnce_of_fatal (hretry : s.retryable error = false) :
    s.attemptOnce n before =
      .ok (.error error, s.report (.debug ("Attempt " ++ toString n ++
        " failed with a non-retryable error: " ++ s.describe error)) after) := by
  rw [attemptOnce, h]
  simp only
  rw [hretry]
  rfl

theorem attemptOnce_of_retry (hretry : s.retryable error = true) :
    s.attemptOnce n before = .error (error, after) := by
  rw [attemptOnce, h]
  simp only
  rw [hretry]
  rfl

end Error

variable (delay : Nat → σ → Duration × σ) (left : Nat)

/-- An attempt that ends the tries gives their result. -/
theorem tryFrom_of_ok {done : Except ε α × σ} (h : s.attemptOnce n before = .ok done) :
    s.tryFrom delay n left before = done := by
  rw [tryFrom, h]

/-- When no attempt is left, any error ends the tries. -/
theorem tryFrom_of_last {error : ε} (h : s.attemptOnce n before = .error (error, after)) :
    s.tryFrom delay n 0 before = s.giveUp n error after := by
  rw [tryFrom, h]

/-- Otherwise they go on after a pause. -/
theorem tryFrom_of_retry {error : ε} (h : s.attemptOnce n before = .error (error, after)) :
    s.tryFrom delay n (left + 1) before = s.tryFrom delay (n + 1) left (s.pause delay n error after) := by
  rw [tryFrom, h]

end Surroundings

/-! ## The attempts of a policy -/

variable (p : RetryPolicy) (n left : Nat)

theorem runFrom_of_ok {value : α} (h : s.attempt before = (.ok value, after)) :
    p.runFrom s n left before = (.ok value, after) :=
  Surroundings.tryFrom_of_ok _ left (Surroundings.attemptOnce_of_ok h)

section Error

variable {error : ε} (h : s.attempt before = (.error error, after))
include h

/-- An error that is not worth another attempt is reported and ends the loop. -/
theorem runFrom_of_fatal (hretry : s.retryable error = false) :
    p.runFrom s n left before =
      (.error error, s.report (.debug ("Attempt " ++ toString n ++
        " failed with a non-retryable error: " ++ s.describe error)) after) :=
  Surroundings.tryFrom_of_ok _ left (Surroundings.attemptOnce_of_fatal h hretry)

/-- When no attempt is left, any error ends the loop. -/
theorem runFrom_of_last (hretry : s.retryable error = true) :
    p.runFrom s n 0 before = s.giveUp n error after :=
  Surroundings.tryFrom_of_last _ (Surroundings.attemptOnce_of_retry h hretry)

/-- Otherwise the loop goes on after a pause. -/
theorem runFrom_of_retry (hretry : s.retryable error = true) :
    p.runFrom s n (left + 1) before =
      p.runFrom s (n + 1) left (s.pause (p.drawnDelay s) n error after) :=
  Surroundings.tryFrom_of_retry _ left (Surroundings.attemptOnce_of_retry h hretry)

end Error

/-- An attempt that no other one follows gives the result; at most a report is made after it. -/
theorem runFrom_of_end {result : Except ε α} (h : s.attempt before = (result, after))
    (hend : ∀ error, result = .error error → s.retryable error = false ∨ left = 0) :
    (p.runFrom s n left before).1 = result ∧
      ((p.runFrom s n left before).2 = after ∨
        ∃ event, (p.runFrom s n left before).2 = s.report event after) := by
  cases result with
  | ok value =>
    rw [runFrom_of_ok p n left h]
    exact ⟨rfl, Or.inl rfl⟩
  | error error =>
    cases hretry : s.retryable error with
    | false =>
      rw [runFrom_of_fatal p n left h hretry]
      exact ⟨rfl, Or.inr ⟨_, rfl⟩⟩
    | true =>
      -- worth another attempt, so it must have been the last one
      rcases hend error rfl with hfatal | rfl
      · rw [hretry] at hfatal
        cases hfatal
      · rw [runFrom_of_last p n h hretry]
        exact ⟨rfl, Or.inr ⟨_, rfl⟩⟩

end RetryPolicy

end Switchyard
