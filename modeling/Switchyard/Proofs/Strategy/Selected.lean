/-
What the ranking strategy selects, exactly.

The strategy fails exactly if a candidate that it would judge has a value that is not a number, infinite
or below zero, and it blames the first of them (`select_eq_error_iff`).  Otherwise it admits the best of
the candidates that have a value to be judged by, stably sorted (`select_eq_ok_iff`).  No other candidate
makes a difference (`select_congr`), and whatever is cut off is no better (`number_le_of_cut_off`).
-/
import Switchyard.Proofs.Ieee.Number
import Switchyard.Proofs.Strategy.Admission
import Switchyard.Proofs.Strategy.Sorting

namespace Switchyard

/-- The value of an endpoint, as a number. -/
def Endpoint.number? (e : Endpoint) : Option ℚ := e.history.value.map Double.number

namespace Strategy

/-! ## Values that cannot be compared -/

/-- The endpoint is to be judged by its value, but that is not a number, infinite or below zero. -/
def HasInvalidValue (minSamples : Nat) (e : Endpoint) : Prop :=
  e.healthy = true ∧ minSamples ≤ e.history.samples ∧
    ∃ x, e.history.value = some x ∧ (x.isNaN = true ∨ x.isInfinite = true ∨ x.number < 0)

theorem isComparable_eq_false_iff {x : Double} :
    isComparable x = false ↔ x.isNaN = true ∨ x.isInfinite = true ∨ x.number < 0 := by
  have hsign : x.isNonNegative = false ↔ x.isNaN = true ∨ x.number < 0 := by
    rw [Double.number_lt_zero_iff]
    simp only [Double.isNonNegative, Bool.and_eq_false_iff, Bool.not_eq_false', Bool.or_eq_false_iff,
      beq_eq_false_iff_ne]
  rw [isComparable, Bool.and_eq_false_iff, Double.isFinite_eq_false_iff, hsign]
  tauto

theorem isSpoiled_iff {minSamples : Nat} {e : Endpoint} :
    isSpoiled minSamples e = true ↔ HasInvalidValue minSamples e := by
  rw [isSpoiled, isEligible, Bool.and_eq_true, Bool.and_eq_true, decide_eq_true_eq, Option.any_eq_true,
    HasInvalidValue, and_assoc]
  simp only [Bool.not_eq_true', isComparable_eq_false_iff]

theorem isSpoiled_eq_false_iff {minSamples : Nat} {e : Endpoint} :
    isSpoiled minSamples e = false ↔ ¬ HasInvalidValue minSamples e := by
  rw [← isSpoiled_iff, Bool.not_eq_true]

/-- What is spoiled would have been ranked. -/
theorem isRanked_of_isSpoiled {minSamples : Nat} {e : Endpoint} (h : isSpoiled minSamples e = true) :
    isRanked minSamples e = true := by
  rw [isSpoiled, Bool.and_eq_true] at h
  obtain ⟨heligible, hvalue⟩ := h
  obtain ⟨x, hx, -⟩ := (Option.any_eq_true _ _).1 hvalue
  rw [isRanked, heligible, hx]
  rfl

/-! ## Outcomes -/

section Select

variable (minSamples : Nat) (bestK : Option Nat) {candidates others admitted ranking : List Endpoint}

theorem select_eq_error_iff {backend : String} :
    (minimumHistory minSamples bestK).select candidates = .error ⟨backend⟩ ↔
      ∃ before e after, candidates = before ++ e :: after ∧ HasInvalidValue minSamples e ∧
        (∀ o ∈ before, ¬ HasInvalidValue minSamples o) ∧ e.backend = backend := by
  rw [select]
  constructor
  · intro h
    split at h
    · rename_i e hfound
      obtain ⟨hspoiled, before, after, hsplit, hbefore⟩ := List.find?_eq_some_iff_append.1 hfound
      refine ⟨before, e, after, hsplit, isSpoiled_iff.1 hspoiled, ?_, ?_⟩
      · intro o ho
        exact isSpoiled_eq_false_iff.1 (by simpa using hbefore o ho)
      · exact congrArg StrategyError.backend (Except.error.inj h)
    · cases h
  · rintro ⟨before, e, after, hsplit, hinvalid, hbefore, rfl⟩
    have hfound : candidates.find? (isSpoiled minSamples) = some e := by
      refine List.find?_eq_some_iff_append.2 ⟨isSpoiled_iff.2 hinvalid, before, after, hsplit, ?_⟩
      intro o ho
      simpa using isSpoiled_eq_false_iff.2 (hbefore o ho)
    rw [hfound]

theorem select_eq_ok_iff :
    (minimumHistory minSamples bestK).select candidates = .ok admitted ↔
      (∀ e ∈ candidates, ¬ HasInvalidValue minSamples e) ∧
        ∃ ranking, IsStableSort rankLe (candidates.filter (isRanked minSamples)) ranking ∧
          admitted = limit bestK ranking := by
  have hsort := isStableSort_mergeSort rankLe_trans rankLe_total
    (candidates.filter (isRanked minSamples))
  constructor
  · intro h
    obtain ⟨hclean, hadmitted⟩ := select_minimumHistory_eq_ok h
    exact ⟨fun e he => isSpoiled_eq_false_iff.1 (hclean e he), _, hsort, hadmitted⟩
  · rintro ⟨hclean, ranking, hranking, rfl⟩
    have hnone : candidates.find? (isSpoiled minSamples) = none := by
      rw [List.find?_eq_none]
      intro e he
      simpa using isSpoiled_eq_false_iff.2 (hclean e he)
    -- there is only one way to sort stably
    rw [select, hnone, hranking.unique rankLe_total hsort]

/-- Candidates that are not ranked make no difference, whatever they are and wherever they stand. -/
theorem select_congr
    (h : others.filter (isRanked minSamples) = candidates.filter (isRanked minSamples)) :
    (minimumHistory minSamples bestK).select others =
      (minimumHistory minSamples bestK).select candidates := by
  have hfind : ∀ xs : List Endpoint, xs.find? (isSpoiled minSamples) =
      (xs.filter (isRanked minSamples)).find? (isSpoiled minSamples) := by
    intro xs
    rw [List.find?_filter]
    congr 1
    funext e
    cases hspoiled : isSpoiled minSamples e with
    | true => simp [isRanked_of_isSpoiled hspoiled]
    | false => simp
  simp only [select]
  rw [hfind others, hfind candidates, h]

/-- What a ranked candidate is ranked by is its number, unless it spoils the pass. -/
theorem number_le_of_rankLe {a b : Endpoint} (ha : isRanked minSamples a = true)
    (hb : isRanked minSamples b = true) (h : rankLe a b = true) :
    ∃ x y, a.number? = some x ∧ b.number? = some y ∧ x ≤ y := by
  rw [isRanked, Bool.and_eq_true] at ha hb
  obtain ⟨x, hx⟩ := Option.isSome_iff_exists.1 ha.2
  obtain ⟨y, hy⟩ := Option.isSome_iff_exists.1 hb.2
  refine ⟨x.number, y.number, by rw [Endpoint.number?, hx]; rfl, by rw [Endpoint.number?, hy]; rfl, ?_⟩
  rw [rankLe, rank, rank, hx, hy, Option.getD_some, Option.getD_some, Double.totalLe_iff] at h
  rcases h with hlt | ⟨heq, -⟩
  · exact hlt.le
  · exact heq.le

theorem limit_append_drop {α : Type} (k : Option Nat) (xs : List α) :
    limit k xs ++ xs.drop (limit k xs).length = xs := by
  cases k with
  | none => simp [limit]
  | some k =>
    rw [limit, List.length_take]
    rcases Nat.le_total k xs.length with hle | hge
    · rw [Nat.min_eq_left hle, List.take_append_drop]
    · rw [Nat.min_eq_right hge, List.take_of_length_le hge, List.drop_length, List.append_nil]

/-- Whatever the limit cuts off a ranking is no better than anything that it leaves. -/
theorem number_le_of_cut_off
    (h : IsStableSort rankLe (candidates.filter (isRanked minSamples)) ranking) {a o : Endpoint}
    (ha : a ∈ limit bestK ranking) (ho : o ∈ ranking.drop (limit bestK ranking).length) :
    ∃ x y, a.number? = some x ∧ o.number? = some y ∧ x ≤ y := by
  have hranked : ∀ e ∈ ranking, isRanked minSamples e = true :=
    fun e he => (List.mem_filter.1 (h.perm.mem_iff.1 he)).2
  have hle : rankLe a o = true := by
    have hsorted := h.sorted
    rw [← limit_append_drop bestK ranking, List.pairwise_append] at hsorted
    exact hsorted.2.2 a ha o ho
  exact number_le_of_rankLe minSamples (hranked a ((limit_sublist _ _).subset ha))
    (hranked o (List.mem_of_mem_drop ho)) hle

end Select

/-- **What the ranking strategy selects.**  It fails exactly if a healthy candidate with enough samples has
a value that is not a number, infinite or below zero, and it names the first of these.  Otherwise it admits
the first `bestK` elements, all of them when there is no limit, of the stable sort by value of the healthy
candidates with enough samples and a value.  Other candidates make no difference, and what is cut off has
no smaller value than anything that is admitted. -/
theorem selects_exactly (minSamples : Nat) (bestK : Option Nat) (candidates : List Endpoint) :
    (∀ backend, (minimumHistory minSamples bestK).select candidates = .error ⟨backend⟩ ↔
      ∃ before e after, candidates = before ++ e :: after ∧ HasInvalidValue minSamples e ∧
        (∀ o ∈ before, ¬ HasInvalidValue minSamples o) ∧ e.backend = backend) ∧
    (∀ admitted, (minimumHistory minSamples bestK).select candidates = .ok admitted ↔
      (∀ e ∈ candidates, ¬ HasInvalidValue minSamples e) ∧
        ∃ ranking, IsStableSort rankLe (candidates.filter (isRanked minSamples)) ranking ∧
          admitted = limit bestK ranking) ∧
    (∀ others, others.filter (isRanked minSamples) = candidates.filter (isRanked minSamples) →
      (minimumHistory minSamples bestK).select others =
        (minimumHistory minSamples bestK).select candidates) ∧
    (∀ ranking, IsStableSort rankLe (candidates.filter (isRanked minSamples)) ranking →
      ∀ a ∈ limit bestK ranking, ∀ o ∈ ranking.drop (limit bestK ranking).length,
        ∃ x y, a.number? = some x ∧ o.number? = some y ∧ x ≤ y) := by
  refine ⟨fun _ => select_eq_error_iff minSamples bestK, fun _ => select_eq_ok_iff minSamples bestK,
    fun _ => select_congr minSamples bestK, ?_⟩
  intro ranking hranking a ha o ho
  exact number_le_of_cut_off minSamples bestK hranking ha ho

/-- A backend with some samples and perhaps a value, given by its bits. -/
def measured (name : String) (samples : Nat) (bits : Option UInt64) (healthy : Bool := true) : Endpoint :=
  { scheme := "http", authority := name, healthy, history := ⟨samples, bits.map Double.mk⟩ }

/-- Twenty and ten milliseconds, both zeros, and candidates that are not ranked: an unhealthy one, one
with too few samples and one without a value. -/
def mixed : List Endpoint :=
  [measured "a" 3 (some 0x4034000000000000), measured "b" 3 (some 0x7FF8000000000000) false,
   measured "c" 3 (some 0x4024000000000000), measured "d" 1 (some 0xBFF0000000000000),
   measured "e" 3 none, measured "f" 3 (some 0), measured "g" 3 (some 0x8000000000000000),
   measured "h" 3 (some 0x4024000000000000)]

/-- Negative zero comes before zero, one of two that are tied is cut off, and an infinite value spoils
everything. -/
theorem selects_exactly_mixed :
    (minimumHistory 2 (some 3)).select mixed =
      .ok [measured "g" 3 (some 0x8000000000000000), measured "f" 3 (some 0),
        measured "c" 3 (some 0x4024000000000000)] ∧
    (minimumHistory 2 (some 3)).select (mixed ++ [measured "i" 2 (some 0x7FF0000000000000)]) =
      .error ⟨"http://i"⟩ ∧
    (minimumHistory 2 (some 3)).select (mixed ++ [measured "i" 1 (some 0x7FF0000000000000)]) =
      (minimumHistory 2 (some 3)).select mixed := by
  obtain ⟨-, hok, hothers, -⟩ := selects_exactly 2 (some 3) mixed
  obtain ⟨herror, -, -, -⟩ :=
    selects_exactly 2 (some 3) (mixed ++ [measured "i" 2 (some 0x7FF0000000000000)])
  have hclean : ∀ e ∈ mixed, ¬ HasInvalidValue 2 e := by
    simp only [← isSpoiled_eq_false_iff]
    decide
  refine ⟨(hok _).2 ⟨hclean, ?_⟩, (herror _).2 ⟨mixed, _, [], rfl, ?_, hclean, rfl⟩, hothers _ (by decide)⟩
  · refine ⟨[measured "g" 3 (some 0x8000000000000000), measured "f" 3 (some 0),
      measured "c" 3 (some 0x4024000000000000), measured "h" 3 (some 0x4024000000000000),
      measured "a" 3 (some 0x4034000000000000)], by decide, rfl⟩
  · rw [← isSpoiled_iff]
    decide

end Strategy

end Switchyard
