/-
What holds of every pass.

Candidates are told apart by their identity, and a strategy admits candidates that it vouches for.
`isSound_make` collects this for a whole pass, whatever the locators found; the published state inherits
it.
-/
import Mathlib.Data.List.Nodup
import Switchyard.Proofs.Strategy.Admission
import Switchyard.Selection

namespace Switchyard

/-! ## First occurrences -/

namespace Selection

/-- No backend occurs twice among the first occurrences. -/
theorem nodup_identity_distinct (es : List Endpoint) :
    ((distinct es).map Endpoint.identity).Nodup := by
  induction es with
  | nil => exact List.nodup_nil
  | cons x es ih =>
    rw [distinct, List.map_cons, List.nodup_cons]
    refine ⟨?_, (List.filter_sublist.map _).nodup ih⟩
    -- what is kept after the first endpoint names other backends
    intro h
    obtain ⟨other, hother, hid⟩ := List.mem_map.1 h
    have hkept := (List.mem_filter.1 hother).2
    rw [Endpoint.same_iff.2 hid] at hkept
    exact Bool.noConfusion hkept

theorem nodup_identity_merge (found : List Found) :
    ((merge found).map Endpoint.identity).Nodup := nodup_identity_distinct _

end Selection

/-- Among endpoints of different backends, the identity tells which one it is. -/
theorem Endpoint.eq_of_identity_eq {es : List Endpoint} (h : (es.map Endpoint.identity).Nodup)
    {a b : Endpoint} (ha : a ∈ es) (hb : b ∈ es) (hid : a.identity = b.identity) : a = b :=
  List.inj_on_of_nodup_map h ha hb hid

/-! ## Whole passes -/

namespace Selection

/-- What holds of the outcome of every pass under a strategy. -/
structure IsSound (strategy : Strategy) (r : Selection) : Prop where
  nodup_candidates : (r.candidates.map Endpoint.identity).Nodup
  nodup_admitted : (r.admitted.map Endpoint.identity).Nodup
  mem_candidates : ∀ e ∈ r.admitted, e ∈ r.candidates
  vouches : ∀ e ∈ r.admitted, strategy.Vouches e
  isRanking : ∀ m k, strategy = .minimumHistory m k → Strategy.IsRanking r.admitted

/-- A pass that admits anything admits what its strategy selects of the candidates. -/
theorem make_cases (strategy : Strategy) (found : List Found) (now : Nat) :
    (make strategy found now).candidates = merge found ∧
      (strategy.select (merge found) = .ok (make strategy found now).admitted ∨
        (make strategy found now).admitted = []) := by
  rw [make]
  cases strategy.select (merge found) with
  | ok admitted => exact ⟨rfl, Or.inl rfl⟩
  | error e => exact ⟨rfl, Or.inr rfl⟩

theorem isSound_make (strategy : Strategy) (found : List Found) (now : Nat) :
    (make strategy found now).IsSound strategy := by
  obtain ⟨hcandidates, hselect | hnil⟩ := make_cases strategy found now
  · refine ⟨?_, ?_, ?_, ?_, ?_⟩
    · rw [hcandidates]
      exact nodup_identity_merge found
    · exact Strategy.nodup_identity_of_select hselect (nodup_identity_merge found)
    · intro e he
      rw [hcandidates]
      exact Strategy.mem_candidates_of_select hselect he
    · intro e he
      exact Strategy.vouches_of_select hselect he
    · rintro m k rfl
      exact Strategy.isRanking_of_select hselect
  · -- the strategy refused the candidates, so nothing is admitted
    refine ⟨?_, ?_, ?_, ?_, ?_⟩
    · rw [hcandidates]
      exact nodup_identity_merge found
    · simp [hnil]
    · simp [hnil]
    · simp [hnil]
    · intro m k _
      rw [hnil]
      exact ⟨by simp, List.Pairwise.nil⟩

end Selection

end Switchyard
