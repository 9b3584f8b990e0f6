/-
What a probe reports of its targets.

What a probe keeps of a target are the latest response times of its successes, as many as the window holds
(`Remembers`).  One answer that is taken note of keeps it that way, and so does a whole round;
`Probe.reports_window` says what follows for every endpoint that is found in a round, after any rounds
before it.  A target that is listed more than once has one window.
-/
import Switchyard.Proofs.Config.Construction
import Switchyard.Proofs.Ieee.Arithmetic

namespace Switchyard

namespace Probe

/-! ## The latest entries -/

theorem length_latest (n : Nat) (xs : List Double) : (latest n xs).length = min n xs.length := by
  rw [latest, List.length_drop]
  omega

/-- Entries that are forgotten on the way would be forgotten anyway. -/
theorem latest_latest_append (n : Nat) (xs ys : List Double) :
    latest n (latest n xs ++ ys) = latest n (xs ++ ys) := by
  have hfirst : latest n xs ++ ys = (xs ++ ys).drop (xs.length - n) := by
    rw [latest, List.drop_append_of_le_length (Nat.sub_le _ _)]
  rw [hfirst, latest, latest, List.drop_drop, List.length_drop, List.length_append]
  congr 1
  omega

/-! ## One answer -/

theorem lookup_setTimes (key other : String × String) (xs : List Double)
    (times : List ((String × String) × List Double)) :
    (setTimes key xs times).lookup other = if other = key then some xs else times.lookup other := by
  have miss : ∀ k : String × String, other ≠ k → (other == k) = false := fun _ => beq_false_of_ne
  induction times with
  | nil =>
    by_cases h : other = key
    · simp [setTimes, h]
    · simp [setTimes, h, List.lookup_cons, miss key h]
  | cons entry times ih =>
    obtain ⟨k, ys⟩ := entry
    rw [setTimes]
    by_cases hk : k = key
    · rw [if_pos hk, List.lookup_cons, List.lookup_cons]
      by_cases h : other = key
      · simp [h, hk]
      · simp [h, miss k fun e => h (e.trans hk)]
    · rw [if_neg hk, List.lookup_cons, List.lookup_cons, ih]
      by_cases h : other = k
      · simp [h, hk]
      · simp [miss k h]

variable {p : Probe}

/-- A response time goes to the window of its target and to no other. -/
theorem timesOf_record (target other : Endpoint) (elapsed : Double) :
    (p.record target elapsed).timesOf other =
      if other.identity = target.identity then latest p.window (p.timesOf target ++ [elapsed])
      else p.timesOf other := by
  rw [timesOf, record, lookup_setTimes]
  split
  · rfl
  · rfl

/-- The probe was answered as it should be. -/
def Outcome.isSuccess : Outcome → Bool
  | success _ => true
  | failure _ => false

/-- The response times of the successes of a backend, oldest first. -/
def successesOf (key : String × String) (notes : List (Endpoint × Outcome)) : List Double :=
  notes.filterMap fun
    | (target, .success elapsed) => if target.identity = key then some elapsed else none
    | (_, .failure _) => none

theorem successesOf_append (key : String × String) (xs ys : List (Endpoint × Outcome)) :
    successesOf key (xs ++ ys) = successesOf key xs ++ successesOf key ys := List.filterMap_append

theorem successesOf_success (key : String × String) (target : Endpoint) (elapsed : Double) :
    successesOf key [(target, .success elapsed)] = if target.identity = key then [elapsed] else [] := by
  by_cases h : target.identity = key <;> simp [successesOf, h]

theorem successesOf_failure (key : String × String) (target : Endpoint) (cause : String) :
    successesOf key [(target, .failure cause)] = [] := rfl

/-- The probe keeps the latest successes of every backend. -/
def Remembers (p : Probe) (notes : List (Endpoint × Outcome)) : Prop :=
  ∀ target : Endpoint, p.timesOf target = latest p.window (successesOf target.identity notes)

theorem targets_note (target : Endpoint) (outcome : Outcome) :
    (p.note target outcome).1.targets = p.targets := by
  cases outcome <;> rfl

theorem window_note (target : Endpoint) (outcome : Outcome) :
    (p.note target outcome).1.window = p.window := by
  cases outcome <;> rfl

/-- What is said of a target comes from what is kept of it once its answer has been noted. -/
theorem endpoint_note (target : Endpoint) (outcome : Outcome) :
    (p.note target outcome).2.1 = { target with
      healthy := outcome.isSuccess
      history := summarize ((p.note target outcome).1.timesOf target) } := by
  cases outcome <;> rfl

theorem timesOf_note_of_ne {target other : Endpoint} (outcome : Outcome)
    (h : other.identity ≠ target.identity) :
    (p.note target outcome).1.timesOf other = p.timesOf other := by
  cases outcome with
  | success elapsed =>
    show (p.record target elapsed).timesOf other = _
    rw [timesOf_record, if_neg h]
  | failure cause => rfl

theorem Remembers.note {notes : List (Endpoint × Outcome)} (h : p.Remembers notes) (target : Endpoint)
    (outcome : Outcome) : (p.note target outcome).1.Remembers (notes ++ [(target, outcome)]) := by
  intro other
  rw [window_note, successesOf_append]
  cases outcome with
  | failure cause =>
    rw [successesOf_failure, List.append_nil]
    exact h other
  | success elapsed =>
    show (p.record target elapsed).timesOf other = _
    rw [timesOf_record, successesOf_success]
    by_cases hsame : other.identity = target.identity
    · -- what was kept, and one more
      rw [if_pos hsame, if_pos hsame.symm, h target, latest_latest_append, hsame]
    · rw [if_neg hsame, if_neg fun e => hsame e.symm, List.append_nil]
      exact h other

/-! ## Rounds -/

/-- A round in which the targets answer in the given ways, in their order. -/
def observe (p : Probe) (outcomes : List Outcome) : Probe × List Endpoint × List Event :=
  p.round (p.targets.zip outcomes)

/-- The probe after several rounds. -/
def observeAll (p : Probe) (rounds : List (List Outcome)) : Probe :=
  rounds.foldl (fun p outcomes => (p.observe outcomes).1) p

/-- All answers of several rounds, in the order they are taken note of. -/
def answers (targets : List Endpoint) (rounds : List (List Outcome)) : List (Endpoint × Outcome) :=
  rounds.flatMap targets.zip

/-- What a network says of the targets makes a round. -/
theorem discover_eq_observe (net : Network) :
    p.discover net = p.observe (p.targets.map (p.ask net)) := by
  rw [discover, observe, List.map_prod_left_eq_zip]

theorem targets_round (notes : List (Endpoint × Outcome)) : (p.round notes).1.targets = p.targets := by
  induction notes generalizing p with
  | nil => rfl
  | cons n notes ih =>
    show ((p.note n.1 n.2).1.round notes).1.targets = _
    rw [ih, targets_note]

theorem window_round (notes : List (Endpoint × Outcome)) : (p.round notes).1.window = p.window := by
  induction notes generalizing p with
  | nil => rfl
  | cons n notes ih =>
    show ((p.note n.1 n.2).1.round notes).1.window = _
    rw [ih, window_note]

theorem Remembers.round {before : List (Endpoint × Outcome)} (h : p.Remembers before)
    (notes : List (Endpoint × Outcome)) : (p.round notes).1.Remembers (before ++ notes) := by
  induction notes generalizing p before with
  | nil =>
    rw [List.append_nil]
    exact h
  | cons n notes ih =>
    rw [List.append_cons]
    exact ih (h.note n.1 n.2)

/-- A target is described once its own answer and those before it have been noted. -/
theorem getElem?_round (notes : List (Endpoint × Outcome)) (i : Nat) :
    (p.round notes).2.1[i]? =
      (notes[i]?).map fun n => ((p.round (notes.take i)).1.note n.1 n.2).2.1 := by
  induction notes generalizing p i with
  | nil => rfl
  | cons n notes ih =>
    show ((p.note n.1 n.2).2.1 :: ((p.note n.1 n.2).1.round notes).2.1)[i]? = _
    cases i with
    | zero => rfl
    | succ i => rw [List.getElem?_cons_succ, List.getElem?_cons_succ, ih, List.take_succ_cons]; rfl

theorem identities_round (notes : List (Endpoint × Outcome)) :
    (p.round notes).2.1.map Endpoint.identity = notes.map fun n => n.1.identity := by
  induction notes generalizing p with
  | nil => rfl
  | cons n notes ih =>
    show (p.note n.1 n.2).2.1.identity :: ((p.note n.1 n.2).1.round notes).2.1.map _ = _
    rw [ih, endpoint_note, List.map_cons]
    rfl

theorem targets_observeAll (rounds : List (List Outcome)) : (p.observeAll rounds).targets = p.targets := by
  induction rounds generalizing p with
  | nil => rfl
  | cons outcomes rounds ih => exact ih.trans (targets_round _)

theorem window_observeAll (rounds : List (List Outcome)) : (p.observeAll rounds).window = p.window := by
  induction rounds generalizing p with
  | nil => rfl
  | cons outcomes rounds ih => exact ih.trans (window_round _)

theorem Remembers.observeAll {before : List (Endpoint × Outcome)} (h : p.Remembers before)
    (rounds : List (List Outcome)) :
    (p.observeAll rounds).Remembers (before ++ answers p.targets rounds) := by
  induction rounds generalizing p before with
  | nil =>
    rw [answers, List.flatMap_nil, List.append_nil]
    exact h
  | cons outcomes rounds ih =>
    have hrest := ih (h.round (p.targets.zip outcomes))
    rw [targets_round, List.append_assoc] at hrest
    exact hrest

/-! ## Reports -/

theorem samples_summarize (xs : List Double) : (summarize xs).samples = xs.length := by
  cases xs <;> rfl

theorem value_summarize (xs : List Double) :
    (summarize xs).value = if xs = [] then none else some (Double.mean xs) := by
  cases xs <;> rfl

/-- The probe that a configuration describes has answered nobody yet. -/
theorem remembers_start (targets : List Endpoint) (path : String) (timeout : Duration) (window : Nat) :
    (Probe.start targets path timeout window).Remembers [] := by
  intro target
  simp [timesOf, start, latest, successesOf]

theorem eq_start_of_ofConfig {c : ProbeConfig} (h : Locator.ofConfig (.probe c) = .ok (.probe p)) :
    Locator.endpointsOf c.endpoints = .ok p.targets ∧
      p = Probe.start p.targets c.path (.ofMillis c.timeoutMillis) c.window := by
  rw [Locator.ofConfig] at h
  obtain ⟨targets, hendpoints, hmade⟩ := exists_of_map_eq_ok h
  cases hmade
  exact ⟨hendpoints, rfl⟩

/-- What is said of a target in a round, given all successes of its backend so far. -/
structure Reports (window : Nat) (target : Endpoint) (outcome : Outcome) (seen : List Double)
    (e : Endpoint) : Prop where
  identity : e.identity = target.identity
  healthy : e.healthy = outcome.isSuccess
  samples : e.history.samples = min window seen.length
  value : e.history.value.isSome = true ↔ 0 < e.history.samples
  mean : ∀ v, e.history.value = some v → v = Double.mean (latest e.history.samples seen)
  /-- Each sum is rounded, and so is the quotient. -/
  rounded : ∀ v, e.history.value = some v → Double.IsMean (latest e.history.samples seen) v

/-- What is said of a target that follows the latest of its successes. -/
theorem reports_note {notes : List (Endpoint × Outcome)} (h : p.Remembers notes) (target : Endpoint)
    (outcome : Outcome) :
    Reports p.window target outcome (successesOf target.identity (notes ++ [(target, outcome)]))
      (p.note target outcome).2.1 := by
  have htimes := h.note target outcome target
  rw [window_note] at htimes
  generalize hseen : successesOf target.identity (notes ++ [(target, outcome)]) = seen at htimes ⊢
  rw [endpoint_note, htimes]
  have hlength : (summarize (latest p.window seen)).samples = min p.window seen.length := by
    rw [samples_summarize, length_latest]
  have hlatest : latest (min p.window seen.length) seen = latest p.window seen := by
    rw [latest, latest]
    congr 1
    omega
  -- what has a value has samples, and the value is their mean
  have hmean : ∀ v, (summarize (latest p.window seen)).value = some v →
      latest p.window seen ≠ [] ∧ v = Double.mean (latest p.window seen) := by
    intro v hv
    rw [value_summarize] at hv
    split at hv
    · cases hv
    · rename_i hne
      exact ⟨hne, (Option.some.inj hv).symm⟩
  refine ⟨rfl, rfl, hlength, ?_, ?_, ?_⟩
  · show (summarize (latest p.window seen)).value.isSome = true ↔ 0 < (summarize _).samples
    rw [value_summarize, samples_summarize, List.length_pos_iff]
    by_cases hnil : latest p.window seen = [] <;> simp [hnil]
  · intro v hv
    show v = Double.mean (latest (summarize (latest p.window seen)).samples seen)
    rw [hlength, hlatest]
    exact (hmean v hv).2
  · intro v hv
    show Double.IsMean (latest (summarize (latest p.window seen)).samples seen) v
    obtain ⟨hne, rfl⟩ := hmean v hv
    rw [hlength, hlatest]
    exact Double.isMean_mean hne

/-- After any rounds, a target is described by the latest successes of its backend up to its own answer. -/
theorem exists_reports {c : ProbeConfig} (hmade : Locator.ofConfig (.probe c) = .ok (.probe p))
    (earlier : List (List Outcome)) {outcomes : List Outcome} {i : Nat} {target : Endpoint}
    {outcome : Outcome} (htarget : p.targets[i]? = some target) (houtcome : outcomes[i]? = some outcome) :
    ∃ e, ((p.observeAll earlier).observe outcomes).2.1[i]? = some e ∧
      Reports (max c.window 1) target outcome (successesOf target.identity
        (answers p.targets earlier ++ (p.targets.zip outcomes).take (i + 1))) e := by
  obtain ⟨-, hstart⟩ := eq_start_of_ofConfig hmade
  have hwindow : p.window = max c.window 1 := by
    rw [hstart]
    rfl
  have hremembers : p.Remembers [] := by
    rw [hstart]
    exact remembers_start _ _ _ _
  have hzip : (p.targets.zip outcomes)[i]? = some (target, outcome) :=
    List.getElem?_zip_eq_some.2 ⟨htarget, houtcome⟩
  have htake : (p.targets.zip outcomes).take (i + 1) =
      (p.targets.zip outcomes).take i ++ [(target, outcome)] := by
    rw [List.take_add_one, hzip]
    rfl
  have hnoted := (hremembers.observeAll earlier).round ((p.targets.zip outcomes).take i)
  have hreports := reports_note hnoted target outcome
  rw [window_round, window_observeAll, hwindow, List.nil_append, List.append_assoc, ← htake] at hreports
  refine ⟨_, ?_, hreports⟩
  rw [observe, targets_observeAll, getElem?_round, hzip, Option.map_some]

/-- **A probe reports the window of each target.**  For every configuration of a probe, after any rounds,
a round finds the configured targets in their order.  Each is healthy if it has just answered; its samples
are the successes of its backend up to its own answer, at most as many as the window holds; and it has a
value exactly if it has samples, which is the mean of that many of the latest response times: their exact sum
from left to right, rounded to a nearest double at each step, divided by their number and rounded.  An answer
that failed leaves everything that is kept as it was, and a response time changes nothing that is kept of any
other backend. -/
theorem reports_window {c : ProbeConfig} {p : Probe}
    (hmade : Locator.ofConfig (.probe c) = .ok (.probe p)) (earlier : List (List Outcome))
    {outcomes : List Outcome} (hround : outcomes.length = p.targets.length) :
    Locator.endpointsOf c.endpoints = .ok p.targets ∧
    ((p.observeAll earlier).observe outcomes).2.1.map Endpoint.identity =
      p.targets.map Endpoint.identity ∧
    (∀ i target outcome, p.targets[i]? = some target → outcomes[i]? = some outcome →
      ∃ e, ((p.observeAll earlier).observe outcomes).2.1[i]? = some e ∧
        Reports (max c.window 1) target outcome (successesOf target.identity
          (answers p.targets earlier ++ (p.targets.zip outcomes).take (i + 1))) e) ∧
    (∀ net, (p.observeAll earlier).discover net =
      (p.observeAll earlier).observe (p.targets.map ((p.observeAll earlier).ask net))) ∧
    (∀ (q : Probe) target cause, (q.note target (.failure cause)).1 = q ∧
      (q.note target (.failure cause)).2.1 =
        { target with healthy := false, history := summarize (q.timesOf target) }) ∧
    ∀ (q : Probe) (target other : Endpoint) outcome, other.identity ≠ target.identity →
      (q.note target outcome).1.timesOf other = q.timesOf other := by
  obtain ⟨hendpoints, -⟩ := eq_start_of_ofConfig hmade
  have htargets : (p.observeAll earlier).targets = p.targets := targets_observeAll earlier
  refine ⟨hendpoints, ?order, fun i target outcome => exists_reports hmade earlier, ?discovers,
    fun _ _ _ => ⟨rfl, rfl⟩, fun _ _ _ outcome => timesOf_note_of_ne outcome⟩
  case order =>
    have hpairs : (p.targets.zip outcomes).map Prod.fst = p.targets :=
      List.map_fst_zip (Nat.le_of_eq hround.symm)
    rw [observe, htargets, identities_round]
    conv => rhs; rw [← hpairs, List.map_map]
    rfl
  case discovers =>
    intro net
    rw [discover_eq_observe, htargets]

/-- Two targets, one of them listed twice, and a window of two. -/
def twice : ProbeConfig :=
  { endpoints := ["http://[::1]:8080", "http://[::2]:8080", "http://[::1]:8080"], window := 2 }

/-- One and two milliseconds, and then three: the window of the first target holds the last two of them,
whose mean is 2.5, also where the target itself has failed. -/
theorem reports_window_twice :
    ∃ p, Locator.ofConfig (.probe twice) = .ok (.probe p) ∧
      ∃ e, ((p.observeAll [[.success ⟨0x3FF0000000000000⟩, .failure "refused",
          .success ⟨0x4000000000000000⟩]]).observe
            [.success ⟨0x4008000000000000⟩, .failure "refused", .failure "reset"]).2.1[2]? = some e ∧
        e.identity = ("http", "[::1]:8080") ∧ e.healthy = false ∧ e.history.samples = 2 ∧
        e.history.value = some ⟨0x4004000000000000⟩ ∧
        Double.IsMean [⟨0x4000000000000000⟩, ⟨0x4008000000000000⟩] ⟨0x4004000000000000⟩ := by
  obtain ⟨p, hmade⟩ : ∃ p, Locator.ofConfig (.probe twice) = .ok (.probe p) := ⟨_, rfl⟩
  have htargets : p.targets = [⟨"http", "[::1]:8080", true, {}⟩, ⟨"http", "[::2]:8080", true, {}⟩,
      ⟨"http", "[::1]:8080", true, {}⟩] := by
    cases hmade
    rfl
  obtain ⟨-, -, hreport, -⟩ := reports_window hmade
    [[.success ⟨0x3FF0000000000000⟩, .failure "refused", .success ⟨0x4000000000000000⟩]]
    (by rw [htargets]; rfl :
      [Outcome.success ⟨0x4008000000000000⟩, .failure "refused", .failure "reset"].length =
        p.targets.length)
  obtain ⟨e, he, hreports⟩ := hreport 2 ⟨"http", "[::1]:8080", true, {}⟩ (.failure "reset")
    (by rw [htargets]; rfl) rfl
  rw [htargets] at hreports
  have hsamples : e.history.samples = 2 := hreports.samples
  obtain ⟨v, hv⟩ := Option.isSome_iff_exists.1 (hreports.value.2 (by rw [hsamples]; decide))
  have hmean := hreports.mean v hv
  have hrounded := hreports.rounded v hv
  rw [hsamples] at hmean hrounded
  obtain rfl : v = ⟨0x4004000000000000⟩ := by
    rw [hmean]
    decide +kernel
  exact ⟨p, hmade, e, he, hreports.identity, hreports.healthy, hsamples, hv, hrounded⟩

end Probe

end Switchyard
