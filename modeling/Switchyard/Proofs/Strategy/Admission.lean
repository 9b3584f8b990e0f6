/-
What strategies admit.

An admitted endpoint is a candidate that its strategy vouches for (`Strategy.Vouches`): healthy and, where
backends are ranked, with enough samples and a value that can be compared.  What the ranking strategy
admits is a ranking.
-/
import Switchyard.Proofs.Strategy.Ranking

namespace Switchyard

namespace Strategy

/-! ## What strategies vouch for -/

/-- What a strategy knows of every endpoint that it admits. -/
def Vouches : Strategy → Endpoint → Prop
  | minimumHistory minSamples _, e =>
    e.healthy = true ∧ minSamples ≤ e.history.samples ∧
      ∃ x, e.history.value = some x ∧ isComparable x = true
  | _, e => e.healthy = true

theorem Vouches.healthy {s : Strategy} {e : Endpoint} (h : s.Vouches e) : e.healthy = true := by
  cases s with
  | minimumHistory minSamples bestK => exact h.1
  | random => exact h
  | roundRobin => exact h

/-! ## Selections -/

theorem limit_sublist {α : Type} (k : Option Nat) (xs : List α) : (limit k xs).Sublist xs := by
  cases k with
  | none => exact List.Sublist.refl xs
  | some k => exact List.take_sublist k xs

/-- What the ranking strategy admits: the best of the ranked candidates, none of which is spoiled. -/
theorem select_minimumHistory_eq_ok {minSamples : Nat} {bestK : Option Nat}
    {candidates admitted : List Endpoint}
    (h : (minimumHistory minSamples bestK).select candidates = .ok admitted) :
    (∀ e ∈ candidates, isSpoiled minSamples e = false) ∧
      admitted = limit bestK ((candidates.filter (isRanked minSamples)).mergeSort rankLe) := by
  rw [select] at h
  split at h
  · cases h
  · rename_i hnone
    refine ⟨?_, (Except.ok.inj h).symm⟩
    intro e he
    simpa using List.find?_eq_none.1 hnone e he

/-- A ranked candidate that is not spoiled is vouched for. -/
theorem vouches_of_isRanked {minSamples : Nat} (bestK : Option Nat) {e : Endpoint}
    (hranked : isRanked minSamples e = true) (hclean : isSpoiled minSamples e = false) :
    (minimumHistory minSamples bestK).Vouches e := by
  rw [isRanked, Bool.and_eq_true] at hranked
  obtain ⟨heligible, hvalue⟩ := hranked
  obtain ⟨x, hx⟩ := Option.isSome_iff_exists.1 hvalue
  rw [isSpoiled, heligible, hx, Bool.true_and, Option.any_some, Bool.not_eq_false'] at hclean
  rw [isEligible, Bool.and_eq_true, decide_eq_true_eq] at heligible
  exact ⟨heligible.1, heligible.2, x, hx, hclean⟩

/-- An admitted endpoint is a candidate. -/
theorem mem_candidates_of_select {s : Strategy} {candidates admitted : List Endpoint}
    (h : s.select candidates = .ok admitted) {e : Endpoint} (he : e ∈ admitted) :
    e ∈ candidates := by
  cases s with
  | minimumHistory minSamples bestK =>
    rw [(select_minimumHistory_eq_ok h).2] at he
    have hsorted := (limit_sublist _ _).subset he
    exact (List.mem_filter.1 (List.mem_mergeSort.1 hsorted)).1
  | random =>
    cases h
    exact (List.mem_filter.1 he).1
  | roundRobin =>
    cases h
    exact (List.mem_filter.1 he).1

/-- An admitted endpoint is vouched for. -/
theorem vouches_of_select {s : Strategy} {candidates admitted : List Endpoint}
    (h : s.select candidates = .ok admitted) {e : Endpoint} (he : e ∈ admitted) : s.Vouches e := by
  cases s with
  | minimumHistory minSamples bestK =>
    -- it is ranked because it was filtered, and not spoiled because no candidate is
    have hmem := mem_candidates_of_select h he
    obtain ⟨hclean, rfl⟩ := select_minimumHistory_eq_ok h
    have hsorted := (limit_sublist _ _).subset he
    exact vouches_of_isRanked bestK (List.mem_filter.1 (List.mem_mergeSort.1 hsorted)).2
      (hclean e hmem)
  | random =>
    cases h
    exact (List.mem_filter.1 he).2
  | roundRobin =>
    cases h
    exact (List.mem_filter.1 he).2

/-- What the ranking strategy admits is in the order of its values. -/
theorem isRanking_of_select {minSamples : Nat} {bestK : Option Nat}
    {candidates admitted : List Endpoint}
    (h : (minimumHistory minSamples bestK).select candidates = .ok admitted) :
    IsRanking admitted := by
  refine ⟨?_, ?_⟩
  · intro e he
    exact (vouches_of_select h he).2.2
  · -- cutting a sorted list leaves it sorted
    rw [(select_minimumHistory_eq_ok h).2]
    apply List.Pairwise.sublist (limit_sublist _ _)
    exact List.pairwise_mergeSort rankLe_trans rankLe_total _

/-- Different candidates stay different when they are admitted. -/
theorem nodup_identity_of_select {s : Strategy} {candidates admitted : List Endpoint}
    (h : s.select candidates = .ok admitted) (hnodup : (candidates.map Endpoint.identity).Nodup) :
    (admitted.map Endpoint.identity).Nodup := by
  cases s with
  | minimumHistory minSamples bestK =>
    -- filtering and cutting give sublists, and sorting a permutation
    rw [(select_minimumHistory_eq_ok h).2]
    apply ((limit_sublist _ _).map _).nodup
    rw [((List.mergeSort_perm _ _).map _).nodup_iff]
    exact (List.filter_sublist.map _).nodup hnodup
  | random =>
    cases h
    exact (List.filter_sublist.map _).nodup hnodup
  | roundRobin =>
    cases h
    exact (List.filter_sublist.map _).nodup hnodup

end Strategy

end Switchyard
