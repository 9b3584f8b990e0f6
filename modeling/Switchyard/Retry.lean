/-
Trying again.

An operation is repeated while it fails with errors worth another attempt and attempts are left.
Before each repetition the program waits; the wait doubles from attempt to attempt up to a bound, and a
random part of it is added.
-/
import Switchyard.Duration
import Switchyard.Log

namespace Switchyard

/-- How often to try and how long to wait in between. -/
structure RetryPolicy where
  /-- Attempts altogether; none counts as one. -/
  maxAttempts : Nat := 2
  base : Duration := .zero
  cap : Duration := .zero
deriving DecidableEq, Repr

namespace RetryPolicy

/-- The number of attempts that may be made. -/
def budget (p : RetryPolicy) : Nat := max 1 p.maxAttempts

/-! ## Waits -/

/-- The wait before an attempt, which is at least the second, without jitter. -/
def backoff (p : RetryPolicy) (attempt : Nat) : Duration :=
  (p.base.times (Nat.pow 2 (min (attempt - 2) 31))).shorter p.cap

/-- The wait before an attempt.  The draw is a number from zero up to a quarter: this part of the wait is
added to it.  A configured wait is too short for the sum to be longer than the longest span. -/
def delayBefore (p : RetryPolicy) (attempt : Nat) (draw : Double := .zero) : Duration :=
  if p.base.isZero then .zero
  else ((p.backoff attempt).scaled? (Double.one.add draw)).getD .longest

/-! ## Attempts -/

/-- What the surroundings provide while an operation is tried: the attempt itself, waiting, reporting and
random draws.  `σ` is the state they share. -/
structure Surroundings (σ ε α : Type) where
  attempt : σ → Except ε α × σ
  wait : Duration → σ → σ
  report : Event → σ → σ
  /-- Whether an error is worth another attempt. -/
  retryable : ε → Bool
  describe : ε → String
  /-- The part of a wait that is added to it, from zero up to a quarter. -/
  draw : σ → Double × σ := fun state => (.zero, state)

namespace Surroundings

variable {σ ε α : Type} (s : Surroundings σ ε α)

/-- One attempt: it ends the tries, or it fails with an error that is worth another one. -/
def attemptOnce (n : Nat) (state : σ) : Except (ε × σ) (Except ε α × σ) :=
  match s.attempt state with
  | (.ok value, state) => .ok (.ok value, state)
  | (.error e, state) =>
    if s.retryable e then .error (e, state)
    else .ok (.error e, s.report (.debug ("Attempt " ++ toString n ++
      " failed with a non-retryable error: " ++ s.describe e)) state)

/-- Ends the tries with the error of the last attempt. -/
def giveUp (n : Nat) (e : ε) (state : σ) : Except ε α × σ :=
  (.error e, s.report (.warn ("Giving up after " ++ toString n ++ " attempts: " ++ s.describe e)) state)

/-- Reports an attempt that another one follows, and waits. -/
def waitOut (delay : Duration) (n : Nat) (e : ε) (state : σ) : σ :=
  let state := s.report (.debug ("Attempt " ++ toString n ++ " failed: " ++ s.describe e ++
    "; next attempt in " ++ delay.text)) state
  if delay.isZero then state else s.wait delay state

/-- What lies between an attempt and the next one, whose wait is `delay`. -/
def pause (delay : Nat → σ → Duration × σ) (n : Nat) (e : ε) (state : σ) : σ :=
  let drawn := delay (n + 1) state
  s.waitOut drawn.1 n e drawn.2

/-- The attempts from the `n`-th on, when `left` more may follow it. -/
def tryFrom (delay : Nat → σ → Duration × σ) (n : Nat) : Nat → σ → Except ε α × σ
  | left, state =>
    match s.attemptOnce n state with
    | .ok done => done
    | .error (e, state) =>
      match left with
      | 0 => s.giveUp n e state
      | left + 1 => tryFrom delay (n + 1) left (s.pause delay n e state)

end Surroundings

variable {σ ε α : Type} (p : RetryPolicy) (s : Surroundings σ ε α)

/-- The wait before an attempt, with a draw of the surroundings if there is anything to wait for. -/
def drawnDelay (attempt : Nat) (state : σ) : Duration × σ :=
  if p.base.isZero then (.zero, state)
  else
    let (draw, state) := s.draw state
    (p.delayBefore attempt draw, state)

/-- The attempts from the `n`-th on, when `left` more may follow it. -/
def runFrom (n left : Nat) (state : σ) : Except ε α × σ := s.tryFrom (p.drawnDelay s) n left state

/-- Tries an operation until it succeeds, fails for good, or no attempt is left. -/
def run (state : σ) : Except ε α × σ := p.runFrom s 1 (p.budget - 1) state

end RetryPolicy

end Switchyard
