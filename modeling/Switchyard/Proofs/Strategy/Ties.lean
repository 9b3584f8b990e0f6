/-
Fairness among the best.

In what the ranking strategy admits, the endpoints of least value are an initial segment
(`number?_eq_least_iff`), and its picks rotate through this segment (`isBalanced_picks_minimumHistory`).
-/
import Switchyard.Proofs.Strategy.Rotation
import Switchyard.Proofs.Strategy.Selected

namespace Switchyard.Strategy

/-- The least number among the values of some endpoints, if there is one. -/
def leastNumber? (es : List Endpoint) : Option ℚ := (es.filterMap Endpoint.number?).min?

theorem leastNumber?_eq_some_iff {es : List Endpoint} {least : ℚ} :
    leastNumber? es = some least ↔
      (∃ e ∈ es, e.number? = some least) ∧ ∀ e ∈ es, ∀ x, e.number? = some x → least ≤ x := by
  rw [leastNumber?, List.min?_eq_some_iff]
  simp only [List.mem_filterMap]
  constructor
  · rintro ⟨hmem, hle⟩
    exact ⟨hmem, fun e he x hx => hle x ⟨e, he, hx⟩⟩
  · rintro ⟨hmem, hle⟩
    exact ⟨hmem, fun x ⟨e, he, hx⟩ => hle e he x hx⟩

section Ranking

variable {es : List Endpoint} (h : IsRanking es)

include h

theorem IsRanking.number?_isSome {e : Endpoint} (he : e ∈ es) : ∃ x, e.number? = some x := by
  obtain ⟨x, hx, -⟩ := h.comparable e he
  exact ⟨x.number, by rw [Endpoint.number?, hx]; rfl⟩

/-- In a ranking, what has a least value has the least number. -/
theorem IsRanking.isLeastIn_iff {e : Endpoint} (he : e ∈ es) :
    e.IsLeastIn es ↔ ∃ x, e.number? = some x ∧ ∀ o ∈ es, ∀ y, o.number? = some y → x ≤ y := by
  constructor
  · rintro ⟨x, hx, hleast⟩
    refine ⟨x.number, by rw [Endpoint.number?, hx]; rfl, ?_⟩
    intro o ho y hy
    obtain ⟨y', hy', hle⟩ := hleast o ho
    rw [Endpoint.number?, hy'] at hy
    obtain rfl : y'.number = y := Option.some.inj hy
    exact Double.number_le_iff.2 (Double.valueLe_iff.1 hle).2
  · rintro ⟨x, hx, hleast⟩
    obtain ⟨d, hd, hdc⟩ := h.comparable e he
    rw [Endpoint.number?, hd] at hx
    obtain rfl : d.number = x := Option.some.inj hx
    refine ⟨d, hd, ?_⟩
    intro o ho
    obtain ⟨y, hy, hyc⟩ := h.comparable o ho
    have hle : d.number ≤ y.number := hleast o ho y.number (by rw [Endpoint.number?, hy]; rfl)
    refine ⟨y, hy, Double.valueLe_iff.2 ⟨⟨?_, ?_⟩, Double.number_le_iff.1 hle⟩⟩
    · exact not_isNaN_of_isComparable hdc
    · exact not_isNaN_of_isComparable hyc

/-- In a ranking, the least number is the one of the leading ties, and of no other endpoint. -/
theorem number?_eq_least_iff {least : ℚ} (hleast : leastNumber? es = some least) {i : Nat}
    (hi : i < es.length) : es[i].number? = some least ↔ i < leadingTies es := by
  obtain ⟨⟨e, he, hnumber⟩, hle⟩ := leastNumber?_eq_some_iff.1 hleast
  rw [← isLeastIn_iff_lt_leadingTies h hi, h.isLeastIn_iff (List.getElem_mem hi)]
  constructor
  · intro heq
    exact ⟨least, heq, hle⟩
  · -- two least numbers are not above each other
    rintro ⟨x, hx, hxle⟩
    have hdown : x ≤ least := hxle e he least hnumber
    have hup : least ≤ x := hle es[i] (List.getElem_mem hi) x hx
    rw [hx, le_antisymm hdown hup]

/-- A ranking that is not empty has a least number. -/
theorem exists_leastNumber (hne : es ≠ []) : ∃ least, leastNumber? es = some least := by
  refine Option.ne_none_iff_exists'.1 fun hnone => ?_
  obtain ⟨e, he⟩ := List.exists_mem_of_ne_nil es hne
  obtain ⟨x, hx⟩ := h.number?_isSome he
  have hmem : x ∈ es.filterMap Endpoint.number? := List.mem_filterMap.2 ⟨e, he, hx⟩
  rw [List.min?_eq_none_iff.1 hnone] at hmem
  cases hmem

end Ranking

/-! ## Picks -/

/-- Picking the first of one takes turns, whatever the cursor does. -/
theorem isBalanced_of_forall_eq_zero {is : List Nat} (h : ∀ i ∈ is, i = 0) : IsBalanced 1 is := by
  constructor
  · intro i hi
    rw [h i hi]
    exact Nat.one_pos
  · intro i hi
    obtain rfl : i = 0 := by omega
    left
    rw [Nat.div_one, List.count_eq_length]
    exact fun i hi => (h i hi).symm

theorem forall_picks {s : Strategy} {selection : List Endpoint} {p : Nat → Prop}
    (h : ∀ cursor, p (s.next selection cursor).1) (m : Nat) (cursor : Cursor) :
    ∀ i ∈ (s.picks selection m cursor).1, p i := by
  induction m generalizing cursor with
  | zero => exact fun i hi => nomatch hi
  | succ m ih =>
    rw [picks]
    intro i hi
    rcases List.mem_cons.1 hi with rfl | hi
    · exact h cursor
    · exact ih _ i hi

/-- The picks among leading ties are balanced until the cursor starts over. -/
theorem isBalanced_picks_minimumHistory (minSamples : Nat) (bestK : Option Nat)
    {selection : List Endpoint} (hties : 0 < leadingTies selection) (m : Nat) {cursor : Cursor}
    (hfew : cursor.turns.toNat + m ≤ UInt64.size) :
    IsBalanced (leadingTies selection)
      ((minimumHistory minSamples bestK).picks selection m cursor).1 := by
  by_cases hone : leadingTies selection ≤ 1
  · have heq : leadingTies selection = 1 := by omega
    rw [heq]
    exact isBalanced_of_forall_eq_zero
      (forall_picks (next_minimumHistory_of_le_one minSamples bestK selection hone) m cursor)
  · refine isBalanced_picks (fun cursor => ?_) hties m hfew
    rw [next, if_neg hone]

/-- **The ranking strategy picks a best endpoint, and those take turns.**  Of what it admits, the endpoints
whose value is the least number are an initial segment, and every pick is one of them.  However the strategy
was used before, on whatever selections, of any picks in a row from this one each of them gets as many as the
number of picks divided by theirs says, rounded up or down, as long as there were no more than 2⁶⁴ picks at
all. -/
theorem rotates_among_least (minSamples : Nat) (bestK : Option Nat)
    {candidates selection : List Endpoint}
    (hselect : (minimumHistory minSamples bestK).select candidates = .ok selection)
    (hne : selection ≠ []) :
    ∃ least t, leastNumber? selection = some least ∧ 0 < t ∧ t ≤ selection.length ∧
      (∀ i (hi : i < selection.length), selection[i].number? = some least ↔ i < t) ∧
      (∀ cursor, ∃ e, selection[((minimumHistory minSamples bestK).next selection cursor).1]? = some e ∧
        e.number? = some least) ∧
      ∀ history m (start : Cursor), start.turns = 0 → history.length + m ≤ UInt64.size →
        let cursor := (minimumHistory minSamples bestK).cursorAfter history start
        let picked := ((minimumHistory minSamples bestK).picks selection m cursor).1
        picked.length = m ∧ IsBalanced t picked := by
  have hranking : IsRanking selection := isRanking_of_select hselect
  have hties : 0 < leadingTies selection := leadingTies_pos hranking hne
  have hwithin : leadingTies selection ≤ selection.length := leadingTies_le_length selection
  obtain ⟨least, hleast⟩ := exists_leastNumber hranking hne
  refine ⟨least, leadingTies selection, hleast, hties, hwithin,
    fun i hi => number?_eq_least_iff hranking hleast hi, ?_, ?_⟩
  · intro cursor
    have hpick := next_minimumHistory_lt minSamples bestK selection hties cursor
    have hlen : ((minimumHistory minSamples bestK).next selection cursor).1 < selection.length :=
      Nat.lt_of_lt_of_le hpick hwithin
    exact ⟨_, List.getElem?_eq_getElem hlen, (number?_eq_least_iff hranking hleast hlen).2 hpick⟩
  · intro history m start hstart hfew
    have hcursor := toNat_cursorAfter_of_fresh (s := minimumHistory minSamples bestK) nofun history hstart
    exact ⟨length_picks _ _ _ _,
      isBalanced_picks_minimumHistory minSamples bestK hties m (by omega)⟩

/-- Both zeros are the least.  Seven picks, after some on other selections, go to these two in turn, and none
to the endpoint of ten milliseconds. -/
theorem rotates_among_least_mixed :
    let s := minimumHistory 2 (some 3)
    let best := [measured "g" 3 (some 0x8000000000000000), measured "f" 3 (some 0),
      measured "c" 3 (some 0x4024000000000000)]
    let picked := (s.picks best 7 (s.cursorAfter [mixed, best, [], best, best] 0)).1
    s.select mixed = .ok best ∧ IsBalanced 2 picked ∧ picked = [1, 0, 1, 0, 1, 0, 1] := by
  intro s best picked
  have hselect : s.select mixed = .ok best := by
    refine (select_eq_ok_iff 2 (some 3)).2 ⟨?_, best ++ [measured "h" 3 (some 0x4024000000000000),
      measured "a" 3 (some 0x4034000000000000)], by decide, rfl⟩
    simp only [← isSpoiled_eq_false_iff]
    decide
  obtain ⟨least, t, -, hpos, -, hsegment, -, hturns⟩ :=
    rotates_among_least 2 (some 3) hselect (List.cons_ne_nil _ _)
  have hbalanced : IsBalanced t picked := (hturns [mixed, best, [], best, best] 7 0 rfl (by decide)).2
  have hfirst : best[0].number? = some least := (hsegment 0 (by decide)).2 hpos
  have hsecond : best[1].number? = best[0].number? :=
    congrArg some (Double.number_eq_iff.2 (by decide))
  have hthird : best[2].number? ≠ best[0].number? := by
    intro heq
    exact absurd (Double.number_eq_iff.1 (Option.some.inj heq)) (by decide)
  have hlower : 1 < t := (hsegment 1 (by decide)).1 (hsecond.trans hfirst)
  have hupper : ¬ 2 < t := fun hlt => hthird (((hsegment 2 (by decide)).2 hlt).trans hfirst.symm)
  obtain rfl : t = 2 := by omega
  exact ⟨hselect, hbalanced, by decide⟩

end Switchyard.Strategy
