/-
What passes validation can be built and started.

Validation and construction walk the locators separately.  `validateLocator_eq_ok` says that one passes
exactly if it can be made and its settings make sense, and `validate_eq_ok` says what the whole
configuration is asked.  A router is refused for no other reason (`exists_ofConfig_iff`), and its refresh
loop for none that validation does not name.
-/
import Switchyard.Proofs.Except
import Switchyard.Proofs.Router.Refresh
import Switchyard.Setup

namespace Switchyard

/-! ## Locators -/

namespace Config

theorem validateEndpoints_eq_ok {urls : List String} :
    validateEndpoints urls = .ok () ↔ ∃ endpoints, Locator.endpointsOf urls = .ok endpoints := by
  rw [validateEndpoints, forM_eq_ok, Locator.endpointsOf, exists_mapM_eq_ok]
  refine forall₂_congr fun url _ => ?_
  cases Endpoint.parse url <;> simp

/-- The settings of a locator that nothing is made from: a probe has a window and a deadline, and the
address of a service is a URL. -/
def MakesSense : LocatorConfig → Prop
  | .static _ => True
  | .probe p => 0 < p.window ∧ 0 < p.timeoutMillis
  | .http url _ => ∃ u, Url.parse url.toList = .ok u

/-- A locator passes exactly if it can be made and its settings make sense. -/
theorem validateLocator_eq_ok {l : LocatorConfig} :
    validateLocator l = .ok () ↔ (∃ made, Locator.ofConfig l = .ok made) ∧ MakesSense l := by
  cases l with
  | static endpoints =>
      rw [validateLocator, validateEndpoints_eq_ok, Locator.ofConfig, Locator.static]
      cases Locator.endpointsOf endpoints <;> simp [Except.map, MakesSense]
  | probe p =>
      have hmade : (∃ made, Locator.ofConfig (.probe p) = .ok made) ↔
          validateEndpoints p.endpoints = .ok () := by
        rw [validateEndpoints_eq_ok, Locator.ofConfig]
        cases Locator.endpointsOf p.endpoints <;> simp [Except.map]
      rw [hmade, validateLocator, MakesSense]
      by_cases hwindow : 0 < p.window <;> by_cases htimeout : 0 < p.timeoutMillis <;>
        simp [demand, hwindow, htimeout, bind, Except.bind]
  | http url timeoutMillis =>
      rw [validateLocator, Locator.ofConfig, MakesSense]
      cases Url.parse url.toList <;> simp

/-! ## Configurations -/

/-- What a configuration is asked. -/
structure IsValid (c : Config) : Prop where
  interval : 0 < c.refreshSeconds
  attempts : 0 < c.retry.maxAttempts
  backoff : c.retry.backoffBaseMillis ≤ c.retry.backoffMaxMillis
  timeout : 0 < c.forward.timeoutMillis
  body : 0 < c.forward.maxBodyBytes
  best : keepsSome c.strategy = true
  made : ∀ l ∈ c.locators, ∃ made, Locator.ofConfig l = .ok made
  sense : ∀ l ∈ c.locators, MakesSense l

theorem demand_bind_eq_ok {condition : Bool} {e : ConfigError} {rest : Except ConfigError Unit} :
    (demand condition e >>= fun _ => rest) = .ok () ↔ condition = true ∧ rest = .ok () := by
  cases condition <;> simp [demand, bind, Except.bind]

theorem validate_eq_ok {c : Config} : c.validate = .ok () ↔ c.IsValid := by
  simp only [validate, demand_bind_eq_ok, forM_eq_ok, validateLocator_eq_ok, decide_eq_true_eq]
  constructor
  · rintro ⟨hinterval, hattempts, hbackoff, htimeout, hbody, hbest, hlocators⟩
    exact ⟨hinterval, hattempts, hbackoff, htimeout, hbody, hbest, fun l hl => (hlocators l hl).1,
      fun l hl => (hlocators l hl).2⟩
  · intro h
    exact ⟨h.interval, h.attempts, h.backoff, h.timeout, h.body, h.best,
      fun l hl => ⟨h.made l hl, h.sense l hl⟩⟩

/-- A configuration that is not asked too much is not refused, and one that is, is. -/
theorem exists_refusal_iff {c : Config} : (∃ e, c.validate = .error e) ↔ ¬c.IsValid := by
  rw [← validate_eq_ok]
  cases c.validate with
  | error e => simp
  | ok u => cases u; simp

theorem isZero_interval {c : Config} : c.interval.isZero = true ↔ c.refreshSeconds = 0 := by
  simp only [interval, Duration.isZero, Duration.ofSeconds, beq_iff_eq]
  omega

end Config

/-! ## Routers -/

theorem Router.exists_ofConfig_iff {c : Config} :
    (∃ r, Router.ofConfig c = .ok r) ↔ c.validate = .ok () := by
  constructor
  · rintro ⟨r, hr⟩
    unfold Router.ofConfig at hr
    cases hvalid : c.validate with
    | error e => simp [hvalid] at hr
    | ok u => rfl
  · intro hvalid
    obtain ⟨locators, hlocators⟩ := exists_mapM_eq_ok.2 (Config.validate_eq_ok.1 hvalid).made
    simp [Router.ofConfig, hvalid, hlocators]

/-- The router asks these locators, and does everything else as the configuration says. -/
structure Router.Carries (r : Router) (locators : List Locator) (c : Config) : Prop where
  locators : r.locators = locators
  strategy : r.strategy = c.strategy
  affinity : r.affinity = ⟨c.affinity.options, c.ttl⟩
  interval : r.interval = c.interval

/-- A router that was made carries the configuration, and nobody holds its turn. -/
theorem Router.carries_ofConfig {c : Config} {r : Router} (h : Router.ofConfig c = .ok r) :
    ∃ locators, c.locators.mapM Locator.ofConfig = .ok locators ∧ r.Carries locators c ∧
      r.gate.held = false := by
  unfold Router.ofConfig at h
  cases hvalid : c.validate with
  | error e => simp [hvalid] at h
  | ok u =>
      cases hlocators : c.locators.mapM Locator.ofConfig with
      | error e => simp [hvalid, hlocators] at h
      | ok locators =>
          simp only [hvalid, hlocators, Except.ok.injEq] at h
          subst h
          exact ⟨locators, rfl, ⟨rfl, rfl, rfl, rfl⟩, rfl⟩

/-- A refresh asks the locators once, and the router carries the configuration after it as before. -/
theorem Router.Carries.refresh {c : Config} {r : Router} {locators : List Locator}
    (h : r.Carries locators c) (hfree : r.gate.held = false) (net : Network) (now : Nat) :
    (r.refresh net now).2.1.Carries (Locator.discoverAll net locators).2.1 c := by
  obtain ⟨hlocators, hstrategy, haffinity, hinterval⟩ := Router.settings_refresh hfree net now
  rw [h.locators] at hlocators
  exact ⟨hlocators, hstrategy.trans h.strategy, haffinity.trans h.affinity, hinterval.trans h.interval⟩

namespace Service

variable {τ : Type}

/-- A loop is refused for one reason only. -/
theorem exists_start_iff {s : Service τ} :
    (∃ started, s.start = .ok started) ↔ s.router.interval.isZero = false := by
  unfold start
  cases hzero : s.router.interval.isZero with
  | true => simp [hzero]
  | false => cases hdue : RefreshLoop.firstDue s.now s.router.interval <;> simp [hzero, hdue]

end Service

/-! ## Agreement -/

/-- **Validation agrees with construction**: a configuration that is accepted gives its locators and a
router that carries it, also after the first pass, and whose refresh loop starts; and if a locator cannot be made, or the loop of a service would be
refused because of the interval that the configuration gives, then the configuration is refused. -/
theorem validation_agrees_with_construction (c : Config) :
    (c.validate = .ok () →
      ∃ locators router, c.locators.mapM Locator.ofConfig = .ok locators ∧
        Router.ofConfig c = .ok router ∧ router.Carries locators c ∧
        ∀ (τ : Type) (network : Network) (transport : Transport τ) (memory : τ),
          ∃ service, Service.ofConfig c network transport memory = .ok service ∧
            service.router.Carries (Locator.discoverAll network locators).2.1 c ∧
            ∃ started, service.start = .ok started) ∧
    (∀ e, c.locators.mapM Locator.ofConfig = .error e → ∃ refusal, c.validate = .error refusal) ∧
    ∀ (τ : Type) (service : Service τ) (message : String),
      service.router.interval = c.interval → service.start = .error message →
        ∃ refusal, c.validate = .error refusal := by
  refine ⟨?accepted, ?unmade, ?unstarted⟩
  case accepted =>
    intro hvalid
    have hmeets := Config.validate_eq_ok.1 hvalid
    obtain ⟨r, hr⟩ := Router.exists_ofConfig_iff.2 hvalid
    obtain ⟨locators, hlocators, hcarries, hfree⟩ := Router.carries_ofConfig hr
    refine ⟨locators, r, hlocators, hr, hcarries, fun τ network transport memory => ?_⟩
    have hrefreshed := hcarries.refresh hfree network 0
    refine ⟨_, by rw [Service.ofConfig, hr]; rfl, hrefreshed, Service.exists_start_iff.2 ?_⟩
    -- the loop asks for no more than the interval that validation has seen
    show (r.refresh network 0).2.1.interval.isZero = false
    rw [hrefreshed.interval, Bool.eq_false_iff]
    intro hzero
    have hinterval := hmeets.interval
    rw [Config.isZero_interval.1 hzero] at hinterval
    exact absurd hinterval (Nat.lt_irrefl 0)
  case unmade =>
    intro e he
    refine Config.exists_refusal_iff.2 fun hmeets => ?_
    obtain ⟨locators, hlocators⟩ := exists_mapM_eq_ok.2 hmeets.made
    rw [hlocators] at he
    cases he
  case unstarted =>
    intro τ service message hinterval hstart
    refine Config.exists_refusal_iff.2 fun hmeets => ?_
    have hzero : service.router.interval.isZero = true := by
      rw [← Bool.not_eq_false]
      intro hne
      obtain ⟨started, hstarted⟩ := Service.exists_start_iff.2 hne
      rw [hstarted] at hstart
      cases hstart
    rw [hinterval, Config.isZero_interval] at hzero
    exact absurd hmeets.interval (by omega)

/-- One locator of each kind. -/
def oneOfEach : Config :=
  { locators := [.static ["http://[::1]:8080"], .probe { endpoints := ["http://[::2]:8080"] },
      .http "http://[::3]/backends" 2000] }

/-- A backend without a host. -/
def hostless : Config := { locators := [.static ["http://"]] }

/-- No time between refreshes. -/
def restless : Config := { refreshSeconds := 0 }

/-- A service that would refresh without a pause. -/
def restlessService : Service Unit :=
  { router :=
      { locators := [], strategy := .random, affinity := ⟨[], none⟩, interval := restless.interval }
    network := .down "no network"
    transport := .unreachable Unit "no network"
    memory := () }

theorem oneOfEach_agrees :
    (oneOfEach.validate = .ok () ∧ ∃ service,
      Service.ofConfig oneOfEach restlessService.network restlessService.transport () = .ok service ∧
        service.router.interval = .ofSeconds 10 ∧ ∃ started, service.start = .ok started) ∧
    (hostless.locators.mapM Locator.ofConfig = .error (.parse "http://" .emptyHost) ∧
      ∃ refusal, hostless.validate = .error refusal) ∧
    (restlessService.start = .error Service.zeroInterval ∧
      ∃ refusal, restless.validate = .error refusal) := by
  have hvalid : oneOfEach.validate = .ok () := rfl
  have hunmade : hostless.locators.mapM Locator.ofConfig = .error (.parse "http://" .emptyHost) := rfl
  have hrefused : restlessService.start = .error Service.zeroInterval := rfl
  obtain ⟨locators, router, -, -, -, hbuilt⟩ := (validation_agrees_with_construction oneOfEach).1 hvalid
  obtain ⟨service, hservice, hcarries, hstarted⟩ := hbuilt _ _ _ _
  exact ⟨⟨hvalid, service, hservice, hcarries.interval, hstarted⟩,
    ⟨hunmade, (validation_agrees_with_construction hostless).2.1 _ hunmade⟩,
    ⟨hrefused, (validation_agrees_with_construction restless).2.2 _ restlessService _ rfl hrefused⟩⟩

end Switchyard
