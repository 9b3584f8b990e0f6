/-
Which probes can satisfy the ranking strategy.

A window holds only so many response times, and the ranking strategy wants so many samples.  Validation
looks at the two settings separately.  `Probe.meets_threshold` says that a backend with successes enough
is admitted exactly if the window holds as many of them as the strategy wants.
-/
import Switchyard.Proofs.Locator.Window
import Switchyard.Proofs.Strategy.Admission

namespace Switchyard

namespace Strategy

/-- Without a limit, what is admitted are the candidates that are ranked. -/
theorem mem_select_iff {minSamples : Nat} {candidates admitted : List Endpoint}
    (h : (minimumHistory minSamples none).select candidates = .ok admitted) {e : Endpoint} :
    e ∈ admitted ↔ e ∈ candidates ∧ isRanked minSamples e = true := by
  rw [(select_minimumHistory_eq_ok h).2, limit, List.mem_mergeSort, List.mem_filter]

end Strategy

namespace Probe

theorem isRanked_of_reports {window minSamples : Nat} {target e : Endpoint} {outcome : Outcome}
    {seen : List Double} (h : Reports window target outcome seen e) (hsuccess : outcome.isSuccess = true)
    (hwindow : 0 < window) (henough : max 1 minSamples ≤ seen.length) :
    Strategy.isRanked minSamples e = true ↔ minSamples ≤ window := by
  have hvalue : e.history.value.isSome = true := by
    rw [h.value, h.samples]
    omega
  have hhealthy : e.healthy = true := h.healthy.trans hsuccess
  rw [Strategy.isRanked, Strategy.isEligible, hvalue, hhealthy, Bool.true_and, Bool.and_true,
    decide_eq_true_eq, h.samples]
  omega

/-- **A probe meets the threshold of the strategy exactly if its window does.**  Take any accepted
configuration of the ranking strategy and a probe of it, and any rounds in which a target succeeded often
enough for the strategy, and once at least, the last time in the last round.  Then what is found of the
target is healthy and has a value; it has as many samples as the window holds of its successes; and the
strategy admits it, unless some candidate fails the whole pass, exactly if the window holds as many as the
strategy wants. -/
theorem meets_threshold {conf : Config} (hvalid : conf.validate = .ok ()) {minSamples : Nat}
    {bestK : Option Nat} (hstrategy : conf.strategy = .minimumHistory minSamples bestK) {c : ProbeConfig}
    (hc : .probe c ∈ conf.locators) :
    ∃ p, Locator.ofConfig (.probe c) = .ok (.probe p) ∧
      ∀ (earlier : List (List Outcome)) (outcomes : List Outcome) i target elapsed,
        p.targets[i]? = some target → outcomes[i]? = some (.success elapsed) →
        max 1 minSamples ≤ (successesOf target.identity
          (answers p.targets earlier ++ (p.targets.zip outcomes).take (i + 1))).length →
        ∃ e, ((p.observeAll earlier).observe outcomes).2.1[i]? = some e ∧
          e.identity = target.identity ∧ e.healthy = true ∧
          e.history.samples = min c.window (successesOf target.identity
            (answers p.targets earlier ++ (p.targets.zip outcomes).take (i + 1))).length ∧
          e.history.value.isSome = true ∧
          (minSamples ≤ e.history.samples ↔ minSamples ≤ c.window) ∧
          (bestK = none → ∀ candidates admitted, e ∈ candidates →
            conf.strategy.select candidates = .ok admitted → (e ∈ admitted ↔ minSamples ≤ c.window)) := by
  have hmeets := Config.validate_eq_ok.1 hvalid
  have hwindow : 0 < c.window := (hmeets.sense _ hc).1
  obtain ⟨p, hmade⟩ : ∃ p, Locator.ofConfig (.probe c) = .ok (.probe p) := by
    obtain ⟨made, hmade⟩ := hmeets.made _ hc
    obtain ⟨targets, htargets⟩ : ∃ targets, Locator.endpointsOf c.endpoints = .ok targets := by
      rw [Locator.ofConfig] at hmade
      obtain ⟨targets, htargets, _⟩ := exists_of_map_eq_ok hmade
      exact ⟨targets, htargets⟩
    exact ⟨_, by rw [Locator.ofConfig, htargets]; rfl⟩
  refine ⟨p, hmade, ?_⟩
  intro earlier outcomes i target elapsed htarget houtcome henough
  obtain ⟨e, he, hreports⟩ := exists_reports hmade earlier htarget houtcome
  rw [Nat.max_eq_left hwindow] at hreports
  generalize hseen : successesOf target.identity
    (answers p.targets earlier ++ (p.targets.zip outcomes).take (i + 1)) = seen at henough hreports ⊢
  have hranked := isRanked_of_reports hreports rfl hwindow henough
  refine ⟨e, he, hreports.identity, hreports.healthy, hreports.samples, ?value, ?samples, ?admitted⟩
  case value =>
    rw [hreports.value, hreports.samples]
    omega
  case samples =>
    rw [hreports.samples]
    omega
  case admitted =>
    intro hall candidates admitted hmem hselect
    rw [hstrategy, hall] at hselect
    rw [Strategy.mem_select_iff hselect, hranked]
    exact and_iff_right hmem

/-- Probes that keep a single response time. -/
def shortSighted (minSamples : Nat) : Config :=
  { strategy := .minimumHistory minSamples none
    locators := [.probe { endpoints := ["http://[::1]:8080"], window := 1 }] }

/-- One sample is enough for a strategy that wants one. -/
theorem meets_threshold_one :
    (shortSighted 1).validate = .ok () ∧
    ∃ p, Locator.ofConfig (.probe { endpoints := ["http://[::1]:8080"], window := 1 }) = .ok (.probe p) ∧
      ∃ e, ((p.observeAll [[.failure "refused"]]).observe [.success ⟨0x3FF0000000000000⟩]).2.1[0]? = some e ∧
        e.identity = ("http", "[::1]:8080") ∧ e.history.samples = 1 ∧
        ∀ admitted, (Strategy.minimumHistory 1 none).select [e] = .ok admitted → e ∈ admitted := by
  have hvalid : (shortSighted 1).validate = .ok () := rfl
  obtain ⟨p, hmade, hmeets⟩ := meets_threshold hvalid rfl List.mem_cons_self
  have htargets : p.targets = [⟨"http", "[::1]:8080", true, {}⟩] := by
    cases hmade
    rfl
  obtain ⟨e, he, hidentity, -, hsamples, -, -, hadmitted⟩ := hmeets [[.failure "refused"]]
    [.success ⟨0x3FF0000000000000⟩] 0 ⟨"http", "[::1]:8080", true, {}⟩ ⟨0x3FF0000000000000⟩
    (by rw [htargets]; rfl) rfl (by rw [htargets]; decide)
  rw [htargets] at hsamples
  exact ⟨hvalid, p, hmade, e, he, hidentity, hsamples,
    fun admitted hselect => (hadmitted rfl [e] admitted List.mem_cons_self hselect).2 (Nat.le_refl 1)⟩

/-- Two samples are wanted and one is kept: the configuration is accepted, the target answers twice in a
row, and it is not admitted. -/
theorem window_below_threshold :
    (shortSighted 2).validate = .ok () ∧
    ∃ p, Locator.ofConfig (.probe { endpoints := ["http://[::1]:8080"], window := 1 }) = .ok (.probe p) ∧
      ∃ e, ((p.observeAll [[.success ⟨0x3FF0000000000000⟩]]).observe
          [.success ⟨0x4000000000000000⟩]).2.1[0]? = some e ∧
        (successesOf e.identity (answers p.targets
          [[.success ⟨0x3FF0000000000000⟩], [.success ⟨0x4000000000000000⟩]])).length = 2 ∧
        ¬ 2 ≤ e.history.samples ∧ (shortSighted 2).strategy.select [e] = .ok [] := by
  obtain ⟨p, hmade⟩ : ∃ p, Locator.ofConfig
      (.probe { endpoints := ["http://[::1]:8080"], window := 1 }) = .ok (.probe p) := ⟨_, rfl⟩
  have htargets : p.targets = [⟨"http", "[::1]:8080", true, {}⟩] := by
    cases hmade
    rfl
  have htarget : p.targets[0]? = some ⟨"http", "[::1]:8080", true, {}⟩ := by
    rw [htargets]
    rfl
  obtain ⟨e, he, hreports⟩ := exists_reports hmade [[.success ⟨0x3FF0000000000000⟩]] htarget
    (rfl : [Outcome.success ⟨0x4000000000000000⟩][0]? = some (.success ⟨0x4000000000000000⟩))
  have hfew : ¬ 2 ≤ e.history.samples := by
    rw [hreports.samples]
    exact fun h => absurd (Nat.le_trans h (Nat.min_le_left _ _)) (by decide)
  have hineligible : Strategy.isEligible 2 e = false := by
    rw [Strategy.isEligible, decide_eq_false hfew, Bool.and_false]
  refine ⟨rfl, p, hmade, e, he, ?_, hfew, ?_⟩
  · rw [hreports.identity, htargets]
    decide
  · simp [shortSighted, Strategy.select, Strategy.isSpoiled, Strategy.isRanked, hineligible, Strategy.limit]

end Probe

end Switchyard
