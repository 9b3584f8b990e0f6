/-
What a pass makes of the answers of its locators.

Each locator brings endpoints or a failure, in the order of the locators (`Asked`).  Of all endpoints that
they bring, the first one of each backend is kept, in order, with its own health and history; `KeepsFirst`
says so by positions, and only one list fits (`KeepsFirst.unique`).  `outcome_of_answers` says what comes
of the whole pass, its error included.
-/
import Mathlib.Data.List.Sort
import Switchyard.Locator
import Switchyard.Proofs.Selection

namespace Switchyard

/-! ## First occurrences -/

namespace Selection

/-- The position holds an endpoint, and no earlier position holds the same backend. -/
def IsFirst (es : List Endpoint) (i : Nat) : Prop :=
  ∃ e, es[i]? = some e ∧ ∀ j < i, ∀ earlier, es[j]? = some earlier → earlier.identity ≠ e.identity

/-- The list is what stands at the first position of each backend, in order. -/
def KeepsFirst (es kept : List Endpoint) : Prop :=
  ∃ positions : List Nat, positions.Pairwise (· < ·) ∧ (∀ i, i ∈ positions ↔ IsFirst es i) ∧
    kept.map some = positions.map (es[·]?)

theorem KeepsFirst.unique {es kept kept' : List Endpoint} (h : KeepsFirst es kept)
    (h' : KeepsFirst es kept') : kept = kept' := by
  obtain ⟨positions, hsorted, hmem, hkept⟩ := h
  obtain ⟨positions', hsorted', hmem', hkept'⟩ := h'
  have hsame : positions = positions' :=
    hsorted.eq_of_mem_iff hsorted' fun i => (hmem i).trans (hmem' i).symm
  rw [← hsame, ← hkept] at hkept'
  exact (List.map_injective_iff.2 (Option.some_injective _) hkept').symm

theorem isFirst_zero (e : Endpoint) (es : List Endpoint) : IsFirst (e :: es) 0 :=
  ⟨e, rfl, fun _ hj => absurd hj (Nat.not_lt_zero _)⟩

/-- Behind an endpoint, first positions are those that hold another backend. -/
theorem isFirst_succ_iff {e : Endpoint} {es : List Endpoint} {i : Nat} :
    IsFirst (e :: es) (i + 1) ↔ IsFirst es i ∧ (es[i]?).any (!·.same e) = true := by
  constructor
  · rintro ⟨o, ho, hearlier⟩
    rw [List.getElem?_cons_succ] at ho
    refine ⟨⟨o, ho, ?_⟩, ?_⟩
    · intro j hj earlier hget
      exact hearlier (j + 1) (Nat.succ_lt_succ hj) earlier hget
    · have hne : e.identity ≠ o.identity := hearlier 0 (Nat.succ_pos i) e rfl
      rw [ho, Option.any_some, Bool.not_eq_true', Bool.eq_false_iff]
      exact fun hsame => hne (Endpoint.same_iff.1 hsame).symm
  · rintro ⟨⟨o, ho, hearlier⟩, hother⟩
    rw [ho, Option.any_some, Bool.not_eq_true', Bool.eq_false_iff] at hother
    refine ⟨o, ho, ?_⟩
    intro j hj earlier hget
    cases j with
    | zero =>
      cases hget
      exact fun hid => hother (Endpoint.same_iff.2 hid.symm)
    | succ j => exact hearlier j (Nat.lt_of_succ_lt_succ hj) earlier hget

theorem keepsFirst_distinct (es : List Endpoint) : KeepsFirst es (distinct es) := by
  induction es with
  | nil =>
    refine ⟨[], List.Pairwise.nil, ?_, rfl⟩
    intro i
    constructor
    · exact fun hi => absurd hi List.not_mem_nil
    · rintro ⟨e, he, -⟩
      cases he
  | cons e es ih =>
    obtain ⟨positions, hsorted, hmem, hkept⟩ := ih
    -- the head comes first, and of the positions behind it those that hold another backend stay
    let other : Nat → Bool := fun i => (es[i]?).any (!·.same e)
    refine ⟨0 :: (positions.filter other).map (· + 1), ?_, ?_, ?_⟩
    · rw [List.pairwise_cons]
      refine ⟨?_, ?_⟩
      · intro i hi
        obtain ⟨j, -, rfl⟩ := List.mem_map.1 hi
        exact Nat.succ_pos j
      · rw [List.pairwise_map]
        exact (hsorted.filter other).imp Nat.succ_lt_succ
    · intro i
      cases i with
      | zero => exact iff_of_true List.mem_cons_self (isFirst_zero e es)
      | succ i =>
        rw [isFirst_succ_iff, ← hmem i, List.mem_cons, List.mem_map]
        constructor
        · rintro (hzero | ⟨j, hj, hsucc⟩)
          · exact absurd hzero (Nat.succ_ne_zero i)
          · rw [← Nat.succ.inj hsucc]
            exact List.mem_filter.1 hj
        · intro h
          exact Or.inr ⟨i, List.mem_filter.2 h, rfl⟩
    · have hfilter : ((distinct es).filter fun o => !o.same e).map some =
          (positions.filter other).map (es[·]?) := by
        have hpush : ((distinct es).filter fun o => !o.same e).map some =
            ((distinct es).map some).filter (Option.any (!·.same e)) := by
          rw [List.filter_map]
          rfl
        rw [hpush, hkept, List.filter_map]
        rfl
      rw [distinct, List.map_cons, List.map_cons, hfilter, List.map_map]
      rfl

end Selection

/-! ## Asking the locators -/

namespace Locator

/-- What a locator answers. -/
def answer (net : Network) (l : Locator) : Except LocatorError (List Endpoint) :=
  (l.discover net).1.answer

/-- No locator fails. -/
def AllAnswer (net : Network) (ls : List Locator) : Prop := ∀ l ∈ ls, ∃ es, l.answer net = .ok es

/-- What locators bring when they are asked in order: a list of endpoints from each that answers, and one
line of text from each that fails. -/
inductive Asked (net : Network) : List Locator → List Endpoint → List String → Prop
  | nil : Asked net [] [] []
  | found {l : Locator} {ls : List Locator} {es brought : List Endpoint} {failures : List String}
      (h : l.answer net = .ok es) (hrest : Asked net ls brought failures) :
      Asked net (l :: ls) (es ++ brought) failures
  | failed {l : Locator} {ls : List Locator} {e : LocatorError} {brought : List Endpoint}
      {failures : List String} (h : l.answer net = .error e) (hrest : Asked net ls brought failures) :
      Asked net (l :: ls) brought ((l.name ++ ": " ++ e.message) :: failures)

theorem locator_discover (net : Network) (l : Locator) : (l.discover net).1.locator = l.name := by
  cases l with
  | fixed name answer => rfl
  | probe p => rfl
  | http url timeout => rfl

theorem asked_discoverAll (net : Network) (ls : List Locator) :
    Asked net ls ((discoverAll net ls).1.flatMap Found.endpoints)
      (Selection.failures (discoverAll net ls).1) := by
  induction ls with
  | nil => exact .nil
  | cons l ls ih =>
    have hfound : (discoverAll net (l :: ls)).1 = (l.discover net).1 :: (discoverAll net ls).1 := rfl
    rw [hfound, List.flatMap_cons, Selection.failures, List.filterMap_cons, Found.failure?,
      Found.endpoints, locator_discover]
    cases hanswer : (l.discover net).1.answer with
    | ok es => exact .found hanswer ih
    | error e => exact .failed hanswer ih

theorem Asked.failures_eq_nil_iff {net : Network} {ls : List Locator} {brought : List Endpoint}
    {failures : List String} (h : Asked net ls brought failures) :
    failures = [] ↔ AllAnswer net ls := by
  induction h with
  | nil => simp [AllAnswer]
  | found hanswer hrest ih =>
    rw [ih, AllAnswer, AllAnswer, List.forall_mem_cons]
    exact (and_iff_right ⟨_, hanswer⟩).symm
  | failed hanswer hrest ih =>
    refine iff_of_false (List.cons_ne_nil _ _) ?_
    intro hall
    obtain ⟨es, hes⟩ := hall _ List.mem_cons_self
    rw [hanswer] at hes
    cases hes

end Locator

/-! ## Whole passes -/

namespace Selection

variable {strategy : Strategy} {found : List Found} {now : Nat}

theorem make_of_ok {admitted : List Endpoint}
    (h : strategy.select (make strategy found now).candidates = .ok admitted) :
    make strategy found now = ⟨merge found, admitted,
      if failures found = [] then none else some (.discovery (failures found)), now⟩ := by
  rw [(make_cases strategy found now).1] at h
  rw [make]
  simp only [h, List.isEmpty_iff]

theorem make_of_error {e : StrategyError}
    (h : strategy.select (make strategy found now).candidates = .error e) :
    make strategy found now = ⟨merge found, [],
      some (if failures found = [] then .strategy strategy.name e.message
        else .discoveryAndStrategy (failures found) strategy.name e.message), now⟩ := by
  rw [(make_cases strategy found now).1] at h
  rw [make]
  simp only [h, List.isEmpty_iff]

/-- What a pass makes of the endpoints and the failures that some locators bring. -/
structure IsOutcome (strategy : Strategy) (net : Network) (locators : List Locator)
    (brought : List Endpoint) (failures : List String) (r : Selection) : Prop where
  keepsFirst_iff : ∀ kept, KeepsFirst brought kept ↔ kept = r.candidates
  admitted_of_ok : ∀ admitted, strategy.select r.candidates = .ok admitted → r.admitted = admitted
  admitted_of_error : ∀ e, strategy.select r.candidates = .error e → r.admitted = []
  error_eq_none_iff : r.error = none ↔
    Locator.AllAnswer net locators ∧ ∃ admitted, strategy.select r.candidates = .ok admitted
  error_eq_discovery : ¬ Locator.AllAnswer net locators →
    ∀ admitted, strategy.select r.candidates = .ok admitted → r.error = some (.discovery failures)
  error_eq_strategy : Locator.AllAnswer net locators →
    ∀ e, strategy.select r.candidates = .error e → r.error = some (.strategy strategy.name e.message)
  error_eq_discoveryAndStrategy : ¬ Locator.AllAnswer net locators →
    ∀ e, strategy.select r.candidates = .error e →
      r.error = some (.discoveryAndStrategy failures strategy.name e.message)
  /-- No backend is admitted twice. -/
  nodup_admitted : (r.admitted.map Endpoint.identity).Nodup
  mem_candidates : ∀ e ∈ r.admitted, e ∈ r.candidates

/-- **What comes of a pass.**  Its candidates are the first endpoints of each backend among all that the
locators bring, in order.  It admits what the strategy selects of them, and nothing if the strategy fails.
Its error tells which of both have failed, with one line for each locator that did. -/
theorem outcome_of_answers (strategy : Strategy) (net : Network) (locators : List Locator) (now : Nat) :
    ∃ brought failures, Locator.Asked net locators brought failures ∧
      (make strategy (Locator.discoverAll net locators).1 now).IsOutcome strategy net locators brought
        failures := by
  have hasked := Locator.asked_discoverAll net locators
  have hall := hasked.failures_eq_nil_iff
  refine ⟨_, _, hasked, ?_⟩
  generalize (Locator.discoverAll net locators).1 = found at hall ⊢
  have hsound := isSound_make strategy found now
  have hcandidates := (make_cases strategy found now).1
  refine {
    keepsFirst_iff := ?_
    admitted_of_ok := fun admitted h => by rw [make_of_ok h]
    admitted_of_error := fun e h => by rw [make_of_error h]
    error_eq_none_iff := ?_
    error_eq_discovery := fun hfailed admitted h => by rw [make_of_ok h, if_neg (mt hall.1 hfailed)]
    error_eq_strategy := fun hanswer e h => by rw [make_of_error h, if_pos (hall.2 hanswer)]
    error_eq_discoveryAndStrategy := fun hfailed e h => by
      rw [make_of_error h, if_neg (mt hall.1 hfailed)]
    nodup_admitted := hsound.nodup_admitted
    mem_candidates := hsound.mem_candidates }
  · intro kept
    rw [hcandidates]
    constructor
    · exact fun h => h.unique (keepsFirst_distinct _)
    · rintro rfl
      exact keepsFirst_distinct _
  · rw [← hall]
    cases hselect : strategy.select (make strategy found now).candidates with
    | ok admitted =>
      rw [make_of_ok hselect]
      simp
    | error e =>
      rw [make_of_error hselect]
      simp

/-- A backend that is found twice is as healthy as it was found first. -/
example :
    merge [⟨"probe", .ok [⟨"http", "a", false, {}⟩, ⟨"http", "b", true, {}⟩]⟩,
      ⟨"http", .error (.unavailable "down")⟩,
      ⟨"static", .ok [⟨"http", "c", true, {}⟩, ⟨"http", "a", true, {}⟩]⟩] =
      [⟨"http", "a", false, {}⟩, ⟨"http", "b", true, {}⟩, ⟨"http", "c", true, {}⟩] := by
  decide

end Selection

end Switchyard
