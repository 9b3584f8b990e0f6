/-
Rankings: lists of endpoints in the order of their values, and the picks among the best of them.

Values are compared as numbers (`Double.valueLe`), where both zeros are equal, while lists are sorted by
bit patterns.  In a ranking the endpoints of least value are exactly the leading ties
(`isLeastIn_iff_lt_leadingTies`), and the picks, over all cursors, are exactly those
(`forall_next_lt_iff`).
-/
import Switchyard.Strategy

namespace Switchyard

/-! ## Values as numbers -/

namespace Double

/-- Not above, as numbers; what is not a number is comparable to nothing. -/
def valueLe (x y : Double) : Bool := !x.isNaN && !y.isNaN && decide (x.valueKey ≤ y.valueKey)

theorem valueLe_iff {x y : Double} :
    x.valueLe y = true ↔ (x.isNaN = false ∧ y.isNaN = false) ∧ x.valueKey ≤ y.valueKey := by
  simp [valueLe]

theorem valueEq_iff {x y : Double} :
    x.valueEq y = true ↔ x.valueLe y = true ∧ y.valueLe x = true := by
  rw [valueLe_iff, valueLe_iff]
  simp only [valueEq, Bool.and_eq_true, Bool.not_eq_true', beq_iff_eq]
  constructor
  · rintro ⟨⟨hx, hy⟩, hkey⟩
    exact ⟨⟨⟨hx, hy⟩, by omega⟩, ⟨hy, hx⟩, by omega⟩
  · rintro ⟨⟨⟨hx, hy⟩, hle⟩, -, hge⟩
    exact ⟨⟨hx, hy⟩, by omega⟩

theorem valueLe_trans {x y z : Double} (hxy : x.valueLe y = true) (hyz : y.valueLe z = true) :
    x.valueLe z = true := by
  rw [valueLe_iff] at *
  exact ⟨⟨hxy.1.1, hyz.1.2⟩, by omega⟩

end Double

/-- The endpoint has a value, and no endpoint of the list is without one or has a smaller one. -/
def Endpoint.IsLeastIn (e : Endpoint) (es : List Endpoint) : Prop :=
  ∃ x, e.history.value = some x ∧
    ∀ o ∈ es, ∃ y, o.history.value = some y ∧ x.valueLe y = true

namespace Strategy

theorem not_isNaN_of_isComparable {x : Double} (h : isComparable x = true) : x.isNaN = false := by
  simp only [isComparable, Double.isFinite, Bool.and_eq_true, decide_eq_true_eq] at h
  simp only [Double.isNaN, decide_eq_false_iff_not]
  omega

/-- The order that lists are sorted by refines the order of values. -/
theorem valueLe_of_rankLe {a b : Endpoint} {x y : Double} (ha : a.history.value = some x)
    (hb : b.history.value = some y) (hx : isComparable x = true) (hy : isComparable y = true)
    (h : rankLe a b = true) : x.valueLe y = true := by
  rw [rankLe, rank, rank, ha, hb, Option.getD_some, Option.getD_some] at h
  rw [Double.valueLe_iff]
  exact ⟨⟨not_isNaN_of_isComparable hx, not_isNaN_of_isComparable hy⟩,
    Double.valueKey_le_of_totalLe h⟩

theorem rankLe_total (a b : Endpoint) : (rankLe a b || rankLe b a) = true :=
  Double.totalLe_total (rank a) (rank b)

theorem rankLe_trans (a b c : Endpoint) (hab : rankLe a b = true) (hbc : rankLe b c = true) :
    rankLe a c = true :=
  Double.totalLe_trans (rank a) (rank b) (rank c) hab hbc

/-! ## Rankings -/

/-- Every endpoint has a value that can be compared, and they are sorted by it. -/
structure IsRanking (es : List Endpoint) : Prop where
  comparable : ∀ e ∈ es, ∃ x, e.history.value = some x ∧ isComparable x = true
  sorted : es.Pairwise fun a b => rankLe a b = true

namespace IsRanking

variable {es : List Endpoint}

/-- What stands further in front has no larger value. -/
theorem valueLe_of_le (h : IsRanking es) {i j : Nat} (hij : i ≤ j) (hj : j < es.length)
    {x y : Double} (hx : es[i].history.value = some x) (hy : es[j].history.value = some y) :
    x.valueLe y = true := by
  have hcx : isComparable x = true := by
    obtain ⟨x', hx', hc⟩ := h.comparable es[i] (List.getElem_mem _)
    rw [hx] at hx'
    cases hx'
    exact hc
  have hcy : isComparable y = true := by
    obtain ⟨y', hy', hc⟩ := h.comparable es[j] (List.getElem_mem _)
    rw [hy] at hy'
    cases hy'
    exact hc
  -- sortedness speaks of different positions only, and a comparable value is not above itself
  rcases Nat.lt_or_eq_of_le hij with hlt | rfl
  · have hrank := List.pairwise_iff_getElem.1 h.sorted i j (by omega) hj hlt
    exact valueLe_of_rankLe hx hy hcx hcy hrank
  · rw [hx] at hy
    cases hy
    rw [Double.valueLe_iff]
    have hnan := not_isNaN_of_isComparable hcx
    exact ⟨⟨hnan, hnan⟩, Int.le_refl _⟩

end IsRanking

/-! ## Leading ties -/

/-- The leading ties end where a value first differs from the best one. -/
theorem leadingTies_eq_findIdx {es : List Endpoint} (hne : 0 < es.length) {best : Double}
    (hbest : es[0].history.value = some best) :
    leadingTies es = es.findIdx fun e => !e.history.value.any (·.valueEq best) := by
  have hhead : es.head?.bind (·.history.value) = some best := by
    rw [List.head?_eq_getElem?, List.getElem?_eq_getElem hne, Option.bind_some, hbest]
  rw [leadingTies, hhead]
  simp only
  rw [List.takeWhile_eq_take_findIdx_not, List.length_take]
  exact Nat.min_eq_left List.findIdx_le_length

theorem leadingTies_le_length (es : List Endpoint) : leadingTies es ≤ es.length := by
  rw [leadingTies]
  split
  · exact Nat.zero_le _
  · exact (List.takeWhile_sublist _).length_le

/-- In a ranking, the endpoints of least value are exactly the leading ties. -/
theorem isLeastIn_iff_lt_leadingTies {es : List Endpoint} (h : IsRanking es) {i : Nat}
    (hi : i < es.length) : es[i].IsLeastIn es ↔ i < leadingTies es := by
  have hne : 0 < es.length := by omega
  obtain ⟨best, hbest, -⟩ := h.comparable es[0] (List.getElem_mem _)
  obtain ⟨x, hx, -⟩ := h.comparable es[i] (List.getElem_mem _)
  rw [leadingTies_eq_findIdx hne hbest, List.lt_findIdx_iff]
  constructor
  · -- a least value is not above the best one, so all values up to it are between equal numbers
    rintro ⟨x', hx', hleast⟩
    rw [hx] at hx'
    cases hx'
    refine ⟨hi, ?_⟩
    intro j hj
    obtain ⟨y, hy, -⟩ := h.comparable es[j] (List.getElem_mem _)
    obtain ⟨best', hbest', hxbest⟩ := hleast es[0] (List.getElem_mem _)
    rw [hbest] at hbest'
    cases hbest'
    have hyx : y.valueLe x = true := h.valueLe_of_le hj hi hy hx
    have hby : best.valueLe y = true := h.valueLe_of_le (Nat.zero_le j) (by omega) hbest hy
    have heq : y.valueEq best = true :=
      Double.valueEq_iff.2 ⟨Double.valueLe_trans hyx hxbest, hby⟩
    simp [hy, heq]
  · -- a tie is not above the best value, which is not above any other one
    rintro ⟨_, hties⟩
    have htie : x.valueEq best = true := by simpa [hx] using hties i (Nat.le_refl i)
    refine ⟨x, hx, ?_⟩
    intro o ho
    obtain ⟨j, hj, rfl⟩ := List.mem_iff_getElem.1 ho
    obtain ⟨y, hy, -⟩ := h.comparable es[j] (List.getElem_mem _)
    have hby : best.valueLe y = true := h.valueLe_of_le (Nat.zero_le j) hj hbest hy
    exact ⟨y, hy, Double.valueLe_trans (Double.valueEq_iff.1 htie).1 hby⟩

/-- A ranking that is not empty has a leading tie: its first endpoint. -/
theorem leadingTies_pos {es : List Endpoint} (h : IsRanking es) (hne : es ≠ []) :
    0 < leadingTies es := by
  have hlen : 0 < es.length := List.length_pos_iff.2 hne
  rw [← isLeastIn_iff_lt_leadingTies h hlen]
  obtain ⟨best, hbest, -⟩ := h.comparable es[0] (List.getElem_mem _)
  refine ⟨best, hbest, ?_⟩
  intro o ho
  obtain ⟨j, hj, rfl⟩ := List.mem_iff_getElem.1 ho
  obtain ⟨y, hy, -⟩ := h.comparable es[j] (List.getElem_mem _)
  exact ⟨y, hy, h.valueLe_of_le (Nat.zero_le j) hj hbest hy⟩

/-! ## Picks -/

section Next

variable (minSamples : Nat) (bestK : Option Nat) (es : List Endpoint)

theorem next_minimumHistory_of_le_one (h : leadingTies es ≤ 1) (cursor : Cursor) :
    ((minimumHistory minSamples bestK).next es cursor).1 = 0 := by
  simp [next, h]

theorem next_minimumHistory_of_one_lt (h : 1 < leadingTies es) (cursor : Cursor) :
    ((minimumHistory minSamples bestK).next es cursor).1 = cursor.turns.toNat % leadingTies es := by
  simp [next, rotate, Nat.not_le.2 h]

/-- A pick is one of the leading ties, if there are any. -/
theorem next_minimumHistory_lt (h : 0 < leadingTies es) (cursor : Cursor) :
    ((minimumHistory minSamples bestK).next es cursor).1 < leadingTies es := by
  by_cases hone : leadingTies es ≤ 1
  · rw [next_minimumHistory_of_le_one minSamples bestK es hone]
    exact h
  · rw [next_minimumHistory_of_one_lt minSamples bestK es (by omega)]
    exact Nat.mod_lt _ h

/-- The picks of all cursors stay below a bound exactly if the leading ties do.  A cursor counts to
2⁶⁴, so ties beyond that are never picked. -/
theorem forall_next_lt_iff (h : 0 < leadingTies es) (n : Nat) :
    (∀ cursor, ((minimumHistory minSamples bestK).next es cursor).1 < n) ↔
      min (leadingTies es) UInt64.size ≤ n := by
  by_cases hone : leadingTies es ≤ 1
  · have hties : leadingTies es = 1 := by omega
    simp only [next_minimumHistory_of_le_one minSamples bestK es hone, hties]
    constructor
    · intro hall
      have := hall 0
      omega
    · intro hle cursor
      have hsize : 1 ≤ UInt64.size := by decide
      omega
  · simp only [next_minimumHistory_of_one_lt minSamples bestK es (by omega : 1 < leadingTies es)]
    constructor
    · -- otherwise the cursor that stands at the bound itself picks the bound
      intro hall
      refine Nat.not_lt.1 fun hlt => ?_
      have hn : n < UInt64.size := by omega
      have hpick := hall { turns := UInt64.ofNat n }
      rw [UInt64.toNat_ofNat_of_lt' hn, Nat.mod_eq_of_lt (by omega)] at hpick
      exact absurd hpick (Nat.lt_irrefl n)
    · -- a pick is a remainder, so it is below the number of ties and not above the cursor
      intro hle cursor
      have hmod : cursor.turns.toNat % leadingTies es < leadingTies es := Nat.mod_lt _ h
      have hcursor : cursor.turns.toNat % leadingTies es ≤ cursor.turns.toNat := Nat.mod_le _ _
      have hsize : cursor.turns.toNat < UInt64.size := cursor.turns.toNat_lt
      omega

end Next

end Strategy

end Switchyard
