/-
How often an operation is tried, and when the loop waits.

Only what the attempts come to decides how many there are: the last one is the first that ends the loop, or
the last that the budget allows.  The loop waits before each attempt but the first, and nowhere else
(`timetable`).  `wordLoop` makes the same attempts with its counter in a word of 32 bits; it stops where the
counter would overflow, which never happens (`wordLoop_eq_tryFrom`).
-/
import Mathlib.Data.Nat.Find
import Mathlib.Order.Bounds.Basic
import Switchyard.Proofs.Retry
import Switchyard.Proxy.Error

namespace Switchyard.RetryPolicy

variable {σ ε α : Type}

/-! ## Outcomes -/

/-- The outcome ends the loop: a success, or an error that is not worth another attempt. -/
def IsFinal (retryable : ε → Bool) : Except ε α → Prop
  | .ok _ => True
  | .error e => retryable e = false

theorem not_isFinal_iff {retryable : ε → Bool} {outcome : Except ε α} :
    ¬ IsFinal retryable outcome ↔ ∃ error, outcome = .error error ∧ retryable error = true := by
  cases outcome with
  | ok value => simp [IsFinal]
  | error error => simp [IsFinal]

/-- An attempt either ends the tries, or it fails with an error that is worth another one. -/
theorem attemptOnce_cases {s : Surroundings σ ε α} {before after : σ} {outcome : Except ε α}
    (h : s.attempt before = (outcome, after)) (n : Nat) :
    (IsFinal s.retryable outcome ∧ ∃ late, s.attemptOnce n before = .ok (outcome, late) ∧
      (late = after ∨ ∃ event, late = s.report event after)) ∨
    ∃ error, outcome = .error error ∧ s.retryable error = true ∧
      s.attemptOnce n before = .error (error, after) := by
  by_cases hfinal : IsFinal s.retryable outcome
  · left
    refine ⟨hfinal, ?_⟩
    cases outcome with
    | ok value => exact ⟨after, Surroundings.attemptOnce_of_ok h, Or.inl rfl⟩
    | error error => exact ⟨_, Surroundings.attemptOnce_of_fatal h hfinal, Or.inr ⟨_, rfl⟩⟩
  · obtain ⟨error, rfl, hretry⟩ := not_isFinal_iff.1 hfinal
    exact Or.inr ⟨error, rfl, hretry, Surroundings.attemptOnce_of_retry h hretry⟩

/-! ## The loop in words -/

theorem toNat_succ {n : UInt32} (h : n.toNat + 1 < UInt32.size) : (n + 1).toNat = n.toNat + 1 := by
  rw [UInt32.toNat_add]
  exact Nat.mod_eq_of_lt h

/-- The same attempts, counted in a word; nothing when the counter overflows. -/
def wordLoop (budget : UInt32) (delay : Nat → σ → Duration × σ) (s : Surroundings σ ε α)
    (attempt : UInt32) (state : σ) : Option (Except ε α × σ) :=
  match s.attemptOnce attempt.toNat state with
  | .ok done => some done
  | .error (e, state) =>
    if budget ≤ attempt then some (s.giveUp attempt.toNat e state)
    else if attempt.toNat + 1 < UInt32.size then
      wordLoop budget delay s (attempt + 1) (s.pause delay attempt.toNat e state)
    else none
termination_by UInt32.size - attempt.toNat
decreasing_by
  rename_i hroom
  rw [toNat_succ hroom]
  omega

/-- Counting in a word makes no difference: there is room for one more attempt whenever one follows. -/
theorem wordLoop_eq_tryFrom (s : Surroundings σ ε α) (delay : Nat → σ → Duration × σ)
    {budget attempt : UInt32} (left : Nat) (state : σ) (hbudget : budget.toNat = attempt.toNat + left) :
    wordLoop budget delay s attempt state = some (s.tryFrom delay attempt.toNat left state) := by
  induction left generalizing attempt state with
  | zero =>
    have hlast : budget ≤ attempt := UInt32.le_iff_toNat_le.2 hbudget.le
    rw [wordLoop, Surroundings.tryFrom]
    rcases s.attemptOnce attempt.toNat state with ⟨error, after⟩ | done
    · exact if_pos hlast
    · rfl
  | succ left ih =>
    have hnotLast : ¬ budget ≤ attempt := by
      rw [UInt32.le_iff_toNat_le]
      omega
    have hroom : attempt.toNat + 1 < UInt32.size := by
      have hword := budget.toNat_lt
      rw [UInt32.size]
      omega
    have hnext := toNat_succ hroom
    rw [wordLoop, Surroundings.tryFrom]
    rcases s.attemptOnce attempt.toNat state with ⟨error, after⟩ | done
    · simp only
      rw [if_neg hnotLast, if_pos hroom, ih _ (by omega), hnext]
    · rfl

/-- The budget as a word. -/
def wordBudget (p : RetryPolicy) : UInt32 := max 1 (.ofNat p.maxAttempts)

theorem toNat_wordBudget {p : RetryPolicy} (hp : p.maxAttempts < UInt32.size) :
    p.wordBudget.toNat = p.budget := by
  have hword : (UInt32.ofNat p.maxAttempts).toNat = p.maxAttempts := UInt32.toNat_ofNat_of_lt' hp
  have hmax : ∀ a b : UInt32, (max a b).toNat = max a.toNat b.toNat := by
    intro a b
    show (if a ≤ b then b else a).toNat = _
    simp only [UInt32.le_iff_toNat_le, Nat.max_def]
    split <;> rfl
  rw [wordBudget, hmax, hword, budget]
  rfl

/-- The counter of a policy starts at one, and its budget leaves at least that. -/
theorem toNat_wordBudget_eq {p : RetryPolicy} (hp : p.maxAttempts < UInt32.size) :
    p.wordBudget.toNat = (1 : UInt32).toNat + (p.budget - 1) := by
  have hone : (1 : UInt32).toNat = 1 := rfl
  have hpos : 1 ≤ p.budget := Nat.le_max_left _ _
  rw [toNat_wordBudget hp, hone]
  omega

/-! ## What the loop does -/

/-- One thing that the loop does. -/
inductive Act where
  /-- It calls the operation for the `n`-th time. -/
  | call (n : Nat)
  | wait (d : Duration)
deriving DecidableEq, Repr

def Act.isCall : Act → Bool
  | .call _ => true
  | .wait _ => false

/-- Surroundings in which the attempts come to some given outcomes, that keep what the loop does, and that
draw a given number before each attempt. -/
def scripted (outcomes : Nat → Except ε α) (retryable : ε → Bool) (describe : ε → String)
    (draws : Nat → Double) : Surroundings (List Act) ε α :=
  { attempt := fun done =>
      let n := done.countP Act.isCall + 1
      (outcomes n, done ++ [.call n])
    wait := fun d done => done ++ [.wait d]
    report := fun _ done => done
    retryable
    describe
    draw := fun done => (draws (done.countP Act.isCall + 1), done) }

/-- The wait before a call.  There is none before the first one, and none without length. -/
def waitBefore (delay : Nat → Duration) (n : Nat) : List Act :=
  if n < 2 ∨ (delay n).isZero then [] else [.wait (delay n)]

/-- The first `k` calls, and the wait before each of them. -/
def timetable (delay : Nat → Duration) (k : Nat) : List Act :=
  (List.range k).flatMap fun i => waitBefore delay (i + 1) ++ [.call (i + 1)]

theorem timetable_succ (delay : Nat → Duration) (n : Nat) :
    timetable delay (n + 1) = timetable delay n ++ waitBefore delay (n + 1) ++ [.call (n + 1)] := by
  rw [timetable, timetable, List.range_succ, List.flatMap_append, List.flatMap_singleton,
    List.append_assoc]

theorem countP_waitBefore (delay : Nat → Duration) (n : Nat) :
    (waitBefore delay n).countP Act.isCall = 0 := by
  rw [waitBefore]
  split <;> rfl

theorem countP_timetable (delay : Nat → Duration) (n : Nat) :
    (timetable delay n).countP Act.isCall = n := by
  induction n with
  | zero => rfl
  | succ n ih =>
    rw [timetable_succ, List.countP_append, List.countP_append, ih, countP_waitBefore]
    rfl

section Scripted

variable {outcomes : Nat → Except ε α} {retryable : ε → Bool} {describe : ε → String}
variable {draws : Nat → Double}

theorem attempt_scripted (delay : Nat → Duration) (n : Nat) :
    (scripted outcomes retryable describe draws).attempt
        (timetable delay n ++ waitBefore delay (n + 1)) =
      (outcomes (n + 1), timetable delay (n + 1)) := by
  have hcount : (timetable delay n ++ waitBefore delay (n + 1)).countP Act.isCall = n := by
    rw [List.countP_append, countP_timetable, countP_waitBefore]
    rfl
  rw [scripted]
  simp only
  rw [hcount, timetable_succ]

theorem waitOut_scripted (delay : Nat → Duration) (n : Nat) (error : ε) (done : List Act) :
    (scripted outcomes retryable describe draws).waitOut (delay (n + 2)) (n + 1) error done =
      done ++ waitBefore delay (n + 2) := by
  have hlater : ¬ n + 2 < 2 := by omega
  rw [Surroundings.waitOut, waitBefore]
  cases hzero : (delay (n + 2)).isZero with
  | true => simp [scripted]
  | false => simp [scripted, hlater]

/-- The waits of a policy are drawn by the number of calls so far. -/
theorem drawnDelay_scripted (p : RetryPolicy) (delay : Nat → Duration) (n : Nat) :
    p.drawnDelay (scripted outcomes retryable describe draws) (n + 1) (timetable delay n) =
      (p.delayBefore (n + 1) (draws (n + 1)), timetable delay n) := by
  rw [drawnDelay]
  by_cases hzero : p.base.isZero = true
  · rw [if_pos hzero, delayBefore, if_pos hzero]
  · rw [if_neg hzero]
    simp only [scripted, countP_timetable]

/-- From any call on, the loop goes through the timetable until the call that ends it. -/
theorem tryFrom_scripted {budget : Nat} {waits : Nat → Duration}
    {delay : Nat → List Act → Duration × List Act}
    (hdelay : ∀ n, delay (n + 1) (timetable waits n) = (waits (n + 1), timetable waits n)) {k : Nat}
    (hk : IsLeast {j | 1 ≤ j ∧ (IsFinal retryable (outcomes j) ∨ j = budget)} k) (hbudget : 1 ≤ budget)
    {n left rest : Nat} (hleft : n + 1 + left = budget) (hrest : n + 1 + rest = k) :
    (scripted outcomes retryable describe draws).tryFrom delay (n + 1) left
      (timetable waits n ++ waitBefore waits (n + 1)) = (outcomes k, timetable waits k) := by
  have hcall : (scripted outcomes retryable describe draws).attempt
      (timetable waits n ++ waitBefore waits (n + 1)) = (outcomes (n + 1), timetable waits (n + 1)) :=
    attempt_scripted waits n
  induction rest generalizing n left with
  | zero =>
    subst hrest
    obtain ⟨-, hend⟩ := hk.1
    rcases attemptOnce_cases hcall (n + 1) with ⟨-, late, honce, hlate⟩ | ⟨error, herror, hretry, honce⟩
    · -- reports are not kept
      have hkept : late = timetable waits (n + 1) := by
        rcases hlate with hlate | ⟨event, hlate⟩
        · exact hlate
        · exact hlate
      rw [Surroundings.tryFrom_of_ok _ _ honce, hkept]
    · have hnotFinal : ¬ IsFinal retryable (outcomes (n + 1)) :=
        not_isFinal_iff.2 ⟨error, herror, hretry⟩
      have hlast : n + 1 = budget := hend.resolve_left hnotFinal
      obtain rfl : left = 0 := by omega
      rw [Surroundings.tryFrom_of_last _ honce, herror]
      rfl
  | succ rest ih =>
    have hless : n + 1 < k := by omega
    have hwithin : k ≤ budget := hk.2 ⟨hbudget, Or.inr rfl⟩
    -- this call comes before the least one that ends the loop
    have hgoes : ¬ IsFinal retryable (outcomes (n + 1)) := by
      intro hfinal
      exact absurd (hk.2 ⟨Nat.succ_pos n, Or.inl hfinal⟩) (Nat.not_le.2 hless)
    obtain ⟨left, rfl⟩ : ∃ more, left = more + 1 := ⟨left - 1, by omega⟩
    rcases attemptOnce_cases hcall (n + 1) with ⟨hfinal, -⟩ | ⟨error, -, -, honce⟩
    · exact absurd hfinal hgoes
    · rw [Surroundings.tryFrom_of_retry _ _ honce, Surroundings.pause, hdelay (n + 1), waitOut_scripted]
      exact ih (by omega) (by omega) (attempt_scripted waits (n + 1))

end Scripted

/-- **The loop calls and waits exactly as often as it has to.**  The operation is called up to the first
outcome that ends the loop, or up to the budget where that is earlier, and the last outcome is given back as
it is.  Before each call but the first the loop waits, once, and at no other point; how long is decided by
the policy and the number that is drawn.  This holds for a counter in a word and whatever the waits are, and
the counter in a word makes no difference in any surroundings. -/
theorem run_exact (p : RetryPolicy) (hp : p.maxAttempts < UInt32.size) (outcomes : Nat → Except ε α)
    (retryable : ε → Bool) (describe : ε → String) (draws : Nat → Double) :
    ∃ k, IsLeast {j | 1 ≤ j ∧ (IsFinal retryable (outcomes j) ∨ j = max 1 p.maxAttempts)} k ∧
      p.run (scripted outcomes retryable describe draws) [] =
        (outcomes k, timetable (fun n => p.delayBefore n (draws n)) k) ∧
      (∀ delay : Nat → Duration, wordLoop p.wordBudget (fun n done => (delay n, done))
        (scripted outcomes retryable describe draws) 1 [] = some (outcomes k, timetable delay k)) ∧
      ∀ {σ : Type} (s : Surroundings σ ε α) (state : σ),
        wordLoop p.wordBudget (p.drawnDelay s) s 1 state = some (p.run s state) := by
  have hpos : 1 ≤ max 1 p.maxAttempts := Nat.le_max_left _ _
  have hleft : 0 + 1 + (p.budget - 1) = max 1 p.maxAttempts := by
    rw [budget]
    omega
  -- the last call of the budget ends the loop at the latest
  obtain ⟨k, hk⟩ : ∃ k, IsLeast {j | 1 ≤ j ∧
      (IsFinal retryable (outcomes j) ∨ j = max 1 p.maxAttempts)} k := by
    classical
    have hends : ∃ j, 1 ≤ j ∧ (IsFinal retryable (outcomes j) ∨ j = max 1 p.maxAttempts) :=
      ⟨_, hpos, Or.inr rfl⟩
    exact ⟨Nat.find hends, Nat.find_spec hends, fun j hj => Nat.find_min' hends hj⟩
  have hrest : 0 + 1 + (k - 1) = k := by
    have hfirst := hk.1.1
    omega
  refine ⟨k, hk, ?_, fun delay => ?_, fun s state => ?_⟩
  · exact tryFrom_scripted (drawnDelay_scripted p _) hk hpos hleft hrest
  · rw [wordLoop_eq_tryFrom _ _ _ _ (toNat_wordBudget_eq hp)]
    exact congrArg some (tryFrom_scripted (fun _ => rfl) hk hpos hleft hrest)
  · exact wordLoop_eq_tryFrom s _ _ state (toNat_wordBudget_eq hp)

/-- Two attempts that lose their connection, and then an answer. -/
def thirdTime (n : Nat) : Except TransportError Nat :=
  if n < 3 then .error (.network "reset") else .ok 200

/-- The answer comes with the third call, after a wait and one that is cut short, to each of which an eighth
is added; the largest budget that there is lets it come. -/
theorem run_exact_third :
    run { maxAttempts := 4294967295, base := .ofMillis 100, cap := .ofMillis 150 }
        (scripted thirdTime TransportError.isRetryable TransportError.message
          fun _ => ⟨0x3FC0000000000000⟩) [] =
      (.ok 200, [.call 1, .wait ⟨112500000⟩, .call 2, .wait ⟨168750000⟩, .call 3]) := by
  obtain ⟨k, hk, hrun, -⟩ := run_exact
    { maxAttempts := 4294967295, base := .ofMillis 100, cap := .ofMillis 150 } (by decide) thirdTime
    TransportError.isRetryable TransportError.message fun _ => ⟨0x3FC0000000000000⟩
  have hthird : IsLeast {j | 1 ≤ j ∧ (IsFinal TransportError.isRetryable (thirdTime j) ∨
      j = max 1 4294967295)} 3 := by
    refine ⟨⟨by decide, Or.inl trivial⟩, ?_⟩
    rintro j ⟨-, hend⟩
    by_contra hless
    have hlost : thirdTime j = .error (.network "reset") := if_pos (by omega)
    rw [hlost, IsFinal] at hend
    have hbudget : j = max 1 4294967295 := hend.resolve_left (by decide)
    omega
  rw [hrun, hk.unique hthird]
  decide +kernel

end Switchyard.RetryPolicy
