/-
What is sent for a request.

A transport can be made to write down what goes through it, and `Service.attempts` is what it has written
down after a request.  Nothing else comes of it: the attempts go as they go without it
(`runFrom_recording`).
-/
import Switchyard.Proofs.Retry
import Switchyard.Proofs.Service.Waiting

namespace Switchyard

/-- One exchange with a backend. -/
structure Attempt where
  sent : Http.Outgoing
  answer : Except TransportError Http.Response

/-- The same transport, which writes down what goes through it. -/
def Transport.recording {τ : Type} (t : Transport τ) : Transport (τ × List Attempt) :=
  ⟨fun out state =>
    let (answer, memory) := t.exchange out state.1
    (answer, memory, state.2 ++ [⟨out, answer⟩])⟩

namespace Service

variable {τ : Type}

/-! ## Recording -/

/-- The same service, with its exchanges written down behind those already made. -/
def recording (s : Service τ) (made : List Attempt) : Service (τ × List Attempt) :=
  s.withTransport s.transport.recording (s.memory, made)

/-- The exchanges that a request leads to. -/
def attempts (s : Service τ) (p : Proxy) (req : Http.Request) (peer : Option Net.SocketAddr) :
    List Attempt :=
  ((s.recording []).handle p req peer).2.memory.2

/-- What lies between an attempt of a request and the next one. -/
def rest (p : RetryPolicy) (n : Nat) (out : Http.Outgoing) (error : TransportError) (s : Service τ) :
    Service τ := (surroundings out).pause (p.drawnDelay (surroundings out)) n error s

theorem waits_waitOut (out : Http.Outgoing) (d : Duration) (n : Nat) (error : TransportError)
    (s : Service τ) : s.Waits ((surroundings out).waitOut d n error s) := by
  rw [RetryPolicy.Surroundings.waitOut]
  split
  · exact Waits.refl.report _
  · exact (Waits.refl.report _).trans (waits_sleep _ _)

/-- A number is drawn if there is anything to wait for, and nothing else happens before the wait. -/
theorem exists_drawn (p : RetryPolicy) (n : Nat) (out : Http.Outgoing) (s : Service τ) :
    ∃ d jitter, p.drawnDelay (surroundings out) n s = (d, { s with jitter }) ∧
      ∀ made, p.drawnDelay (surroundings out) n (s.recording made) =
        (d, ({ s with jitter } : Service τ).recording made) := by
  simp only [RetryPolicy.drawnDelay]
  split
  · exact ⟨_, s.jitter, rfl, fun _ => rfl⟩
  · exact ⟨_, _, rfl, fun _ => rfl⟩

theorem waits_rest (p : RetryPolicy) (n : Nat) (out : Http.Outgoing) (error : TransportError)
    (s : Service τ) : s.Waits (s.rest p n out error) := by
  obtain ⟨d, jitter, hdrawn, -⟩ := exists_drawn p (n + 1) out s
  rw [rest, RetryPolicy.Surroundings.pause, hdrawn]
  exact (Waits.refl.draw jitter).trans (waits_waitOut out d n error _)

theorem sleep_recording (d : Duration) (s : Service τ) (made : List Attempt) :
    (s.recording made).sleep d = (s.sleep d).recording made := by
  obtain ⟨htransport, hmemory⟩ := (waits_sleep d s).transport_eq
  rw [recording, recording, sleep_withTransport, htransport, hmemory]

theorem waitOut_recording (out : Http.Outgoing) (d : Duration) (n : Nat) (error : TransportError)
    (s : Service τ) (made : List Attempt) :
    (surroundings out).waitOut d n error (s.recording made) =
      ((surroundings out).waitOut d n error s).recording made := by
  rw [RetryPolicy.Surroundings.waitOut, RetryPolicy.Surroundings.waitOut]
  split
  · rfl
  · exact sleep_recording _ (s.report _) made

theorem rest_recording (p : RetryPolicy) (n : Nat) (out : Http.Outgoing) (error : TransportError)
    (s : Service τ) (made : List Attempt) :
    (s.recording made).rest p n out error = (s.rest p n out error).recording made := by
  obtain ⟨d, jitter, hdrawn, hrecorded⟩ := exists_drawn p (n + 1) out s
  rw [rest, rest, RetryPolicy.Surroundings.pause, RetryPolicy.Surroundings.pause, hdrawn, hrecorded]
  exact waitOut_recording out d n error _ made

theorem attempt_recording {out : Http.Outgoing} {s after : Service τ}
    {answer : Except TransportError Http.Response} (made : List Attempt)
    (h : (surroundings out).attempt s = (answer, after)) :
    (surroundings out).attempt (s.recording made) =
      (answer, after.recording (made ++ [⟨out, answer⟩])) := by
  cases h
  rfl

/-! ## Attempts in a row -/

/-- What comes of trying a request while loops may run: all attempts but the last one have failed in a way
worth another one, and the last one gives the answer.  Between two attempts bindings may have been
dropped. -/
structure Tried (out : Http.Outgoing) (loops : List RefreshLoop) (before : Bindings)
    (answer : Except TransportError Http.Response) (made : List Attempt) (after : Bindings) : Prop where
  exists_failures : ∃ failures : List TransportError, (∀ e ∈ failures, e.isRetryable = true) ∧
    made = failures.map (fun e => ⟨out, .error e⟩) ++ [⟨out, answer⟩]
  get?_cases : ∀ key, after.get? key = before.get? key ∨
    (loops ≠ [] ∧ 2 ≤ made.length ∧ after.get? key = none)

namespace Tried

variable {out : Http.Outgoing} {loops loops' : List RefreshLoop} {before mid after : Bindings}
  {answer : Except TransportError Http.Response} {made : List Attempt}

theorem once (out : Http.Outgoing) (loops : List RefreshLoop) (bindings : Bindings)
    (answer : Except TransportError Http.Response) :
    Tried out loops bindings answer [⟨out, answer⟩] bindings :=
  ⟨⟨[], by simp, rfl⟩, fun _ => Or.inl rfl⟩

theorem ne_nil (h : Tried out loops before answer made after) : made ≠ [] := by
  obtain ⟨failures, -, rfl⟩ := h.exists_failures
  simp

/-- All attempts are made with the same request. -/
theorem sent_eq (h : Tried out loops before answer made after) {a : Attempt} (ha : a ∈ made) :
    a.sent = out := by
  obtain ⟨failures, -, rfl⟩ := h.exists_failures
  rcases List.mem_append.1 ha with ha | ha
  · obtain ⟨e, -, rfl⟩ := List.mem_map.1 ha
    rfl
  · rw [List.mem_singleton.1 ha]

/-- The last attempt decides, and all attempts before it have failed. -/
theorem exists_last (h : Tried out loops before answer made after) :
    ∃ earlier last, made = earlier ++ [last] ∧ last.answer = answer ∧
      ∀ a ∈ earlier, ∃ source, a.answer = .error source := by
  obtain ⟨failures, -, rfl⟩ := h.exists_failures
  refine ⟨_, _, rfl, rfl, ?_⟩
  intro a ha
  obtain ⟨source, -, rfl⟩ := List.mem_map.1 ha
  exact ⟨source, rfl⟩

/-- A failure and a pause may come before all of it. -/
theorem again (h : Tried out loops' mid answer made after) {error : TransportError}
    (hretry : error.isRetryable = true) (hloops : loops' ≠ [] → loops ≠ [])
    (hmid : ∀ key, mid.get? key = before.get? key ∨ (loops ≠ [] ∧ mid.get? key = none)) :
    Tried out loops before answer (⟨out, .error error⟩ :: made) after := by
  refine ⟨?_, ?_⟩
  · obtain ⟨failures, hfailures, rfl⟩ := h.exists_failures
    refine ⟨error :: failures, ?_, rfl⟩
    intro e he
    rcases List.mem_cons.1 he with rfl | he
    · exact hretry
    · exact hfailures e he
  · intro key
    -- there is at least one attempt after the failure
    have htwo : 2 ≤ (⟨out, .error error⟩ :: made : List Attempt).length :=
      Nat.succ_le_succ (List.length_pos_iff.2 h.ne_nil)
    rcases h.get?_cases key with hsame | ⟨hsome, -, hnone⟩
    · rcases hmid key with hmid | ⟨hsome, hmid⟩
      · exact Or.inl (hsame.trans hmid)
      · exact Or.inr ⟨hsome, htwo, hsame.trans hmid⟩
    · exact Or.inr ⟨hloops hsome, htwo, hnone⟩

end Tried

/-- The attempts of a request are written down, and nothing else comes of that. -/
theorem runFrom_recording (p : RetryPolicy) (out : Http.Outgoing) (n left : Nat) (s : Service τ)
    (made : List Attempt) :
    ∃ new, p.runFrom (surroundings out) n left (s.recording made) =
        ((p.runFrom (surroundings out) n left s).1,
          (p.runFrom (surroundings out) n left s).2.recording (made ++ new)) ∧
      Tried out s.loops s.router.bindings (p.runFrom (surroundings out) n left s).1 new
        (p.runFrom (surroundings out) n left s).2.router.bindings := by
  -- induction on the attempts that are left; what is written down before this one does not matter
  induction left using Nat.strongRecOn generalizing n s made with
  | ind left ih =>
    rcases hattempt : (surroundings out).attempt s with ⟨answer, after⟩
    have hframe : after.router = s.router ∧ after.loops = s.loops := by
      cases hattempt
      exact ⟨rfl, rfl⟩
    have hrecorded := attempt_recording made hattempt
    -- where the loop ends, at most a report comes after the attempt
    have hend : ∀ late : Service τ, late.router = after.router →
        Tried out s.loops s.router.bindings answer [⟨out, answer⟩] late.router.bindings := by
      intro late hlate
      rw [hlate, hframe.1]
      exact .once out s.loops s.router.bindings answer
    cases answer with
    | ok response =>
      rw [p.runFrom_of_ok n left hattempt, p.runFrom_of_ok n left hrecorded]
      exact ⟨_, rfl, hend _ rfl⟩
    | error error =>
      cases hretry : error.isRetryable with
      | false =>
        rw [p.runFrom_of_fatal n left hattempt hretry, p.runFrom_of_fatal n left hrecorded hretry]
        exact ⟨_, rfl, hend _ rfl⟩
      | true =>
        cases left with
        | zero =>
          rw [p.runFrom_of_last n hattempt hretry, p.runFrom_of_last n hrecorded hretry]
          exact ⟨_, rfl, hend _ rfl⟩
        | succ left =>
          have hpause := waits_rest p n out error after
          rw [p.runFrom_of_retry n left hattempt hretry, p.runFrom_of_retry n left hrecorded hretry,
            ← rest, ← rest, rest_recording]
          obtain ⟨new, hrest, htried⟩ := ih left (Nat.lt_succ_self left) (n + 1)
            (after.rest p n out error) (made ++ [⟨out, .error error⟩])
          -- this failure comes first, and then what the rest of the loop writes down
          refine ⟨⟨out, .error error⟩ :: new, ?_, htried.again hretry ?_ ?_⟩
          · rw [hrest, List.append_assoc]
            rfl
          · rw [← List.length_pos_iff, ← List.length_pos_iff, hpause.length_loops, hframe.2]
            exact id
          · intro key
            rw [← hframe.1, ← hframe.2]
            exact hpause.get?_cases key

end Service

end Switchyard
