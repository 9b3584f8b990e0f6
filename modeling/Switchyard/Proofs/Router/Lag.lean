/-
Picks against the metrics that are published.

A rule keeps the endpoints as they were when it was installed, and a later pass that admits the same
backends in the same order leaves the rule in place.  A pick is therefore best by the metrics of the
installation, not by those of the outcome that is published beside the rule (`pick_may_lag`).
`forall_pick_servesLeast_iff` says exactly when it is best by both, whatever the cursor.
-/
import Switchyard.Proofs.Router.Published

namespace Switchyard

open Strategy (IsRanking leadingTies)

/-- The backend of an endpoint is admitted, and no admitted one has a smaller value in this pass. -/
def Selection.ServesLeast (r : Selection) (e : Endpoint) : Prop :=
  ∃ c ∈ r.admitted, c.identity = e.identity ∧ c.IsLeastIn r.admitted

/-! ## Picks by position -/

/-- The same backends in the same order: each position holds the same backend. -/
theorem Endpoint.identity_getElem {xs ys : List Endpoint}
    (h : xs.map Endpoint.identity = ys.map Endpoint.identity) {i : Nat} (hx : i < xs.length)
    (hy : i < ys.length) : xs[i].identity = ys[i].identity := by
  have hmap : (xs.map Endpoint.identity)[i]? = (ys.map Endpoint.identity)[i]? := by rw [h]
  simpa [List.getElem?_map, hx, hy] using hmap

namespace Rule

theorem pick_eq_getElem (rule : Rule) (cursor : Cursor)
    (h : (rule.strategy.next rule.selection cursor).1 < rule.selection.length) :
    (rule.pick cursor).1 =
      rule.selection[(rule.strategy.next rule.selection cursor).1] := by
  simp [pick, h]

end Rule

namespace Selection.IsSound

variable {r : Selection} {xs : List Endpoint}

/-- A backend at some position serves the least value exactly if that position is a leading tie. -/
theorem servesLeast_iff {m : Nat} {k : Option Nat} (h : r.IsSound (.minimumHistory m k))
    (hsame : xs.map Endpoint.identity = r.admitted.map Endpoint.identity) {i : Nat}
    (hi : i < xs.length) : r.ServesLeast xs[i] ↔ i < leadingTies r.admitted := by
  have hranking : IsRanking r.admitted := h.isRanking m k rfl
  have hlength : xs.length = r.admitted.length := by
    simpa using congrArg List.length hsame
  have hi' : i < r.admitted.length := by omega
  have hid : xs[i].identity = r.admitted[i].identity := Endpoint.identity_getElem hsame hi hi'
  rw [← Strategy.isLeastIn_iff_lt_leadingTies hranking hi']
  constructor
  · -- the admitted endpoint of this backend is the one at the same position
    rintro ⟨c, hc, hcid, hleast⟩
    have heq : c = r.admitted[i] :=
      Endpoint.eq_of_identity_eq h.nodup_admitted hc (List.getElem_mem hi') (hcid.trans hid)
    rw [← heq]
    exact hleast
  · intro hleast
    exact ⟨r.admitted[i], List.getElem_mem hi', hid.symm, hleast⟩

end Selection.IsSound

/-! ## Published states -/

namespace RouterState.IsSound

variable {m : Nat} {k : Option Nat} {s : RouterState} {rule : Rule}

/-- The endpoints of a rule are ranked by the metrics that it keeps. -/
theorem isRanking_rule (h : s.IsSound (.minimumHistory m k)) (hrule : s.rule = some rule) :
    IsRanking rule.selection := by
  obtain ⟨-, ⟨origin, horigin, hselection⟩, -⟩ := h.rule rule hrule
  rw [hselection]
  exact horigin.isRanking m k rfl

/-- A pick is the endpoint at a leading tie of the rule. -/
theorem exists_pick_eq (h : s.IsSound (.minimumHistory m k)) (hrule : s.rule = some rule)
    (cursor : Cursor) : ∃ hi : ((Strategy.minimumHistory m k).next rule.selection cursor).1 <
        rule.selection.length,
      (rule.pick cursor).1 =
        rule.selection[((Strategy.minimumHistory m k).next rule.selection cursor).1] := by
  have hstrategy : rule.strategy = .minimumHistory m k := (h.rule rule hrule).1
  have hpos : 0 < leadingTies rule.selection :=
    Strategy.leadingTies_pos (h.isRanking_rule hrule) rule.selection_ne_nil
  have hlt := Strategy.next_minimumHistory_lt m k rule.selection hpos cursor
  have hle := Strategy.leadingTies_le_length rule.selection
  -- the cursor stays among the ties, which are among the endpoints, so the pick needs no default
  refine ⟨by omega, ?_⟩
  have hpick := Rule.pick_eq_getElem rule cursor
  simp only [hstrategy] at hpick
  exact hpick (by omega)

/-- A pick has the least value by the metrics that the rule keeps. -/
theorem pick_isLeastIn (h : s.IsSound (.minimumHistory m k)) (hrule : s.rule = some rule)
    (cursor : Cursor) : (rule.pick cursor).1.IsLeastIn rule.selection := by
  have hranking := h.isRanking_rule hrule
  obtain ⟨hi, hpick⟩ := h.exists_pick_eq hrule cursor
  rw [hpick, Strategy.isLeastIn_iff_lt_leadingTies hranking hi]
  exact Strategy.next_minimumHistory_lt m k rule.selection
    (Strategy.leadingTies_pos hranking rule.selection_ne_nil) cursor

/-- Every pick serves the least published value exactly if no more backends are tied for the best in
the rule than in the published outcome. -/
theorem pick_servesLeast_iff (h : s.IsSound (.minimumHistory m k)) (hrule : s.rule = some rule)
    {published : Selection} (hpublished : s.selection = some published) :
    (∀ cursor, published.ServesLeast (rule.pick cursor).1) ↔
      min (leadingTies rule.selection) UInt64.size ≤ leadingTies published.admitted := by
  obtain ⟨-, -, r, hr, hsame⟩ := h.rule rule hrule
  have heq : r = published := Option.some.inj (hr.symm.trans hpublished)
  subst heq
  have hpos : 0 < leadingTies rule.selection :=
    Strategy.leadingTies_pos (h.isRanking_rule hrule) rule.selection_ne_nil
  -- the cursor reaches every tie of the rule, so all of them must be ties of the published outcome
  rw [← Strategy.forall_next_lt_iff m k rule.selection hpos]
  apply forall_congr'
  intro cursor
  obtain ⟨hi, hpick⟩ := h.exists_pick_eq hrule cursor
  rw [hpick]
  exact (h.selection r hr).servesLeast_iff hsame hi

end RouterState.IsSound

namespace Router

/-! ## A run in which a pick lags -/

/-- Two backends with one sample each. -/
def pair (x y : Double) : List Endpoint :=
  [{ scheme := "http", authority := "a:8080", history := ⟨1, some x⟩ },
   { scheme := "http", authority := "b:8080", history := ⟨1, some y⟩ }]

/-- Ten milliseconds. -/
def fast : Double := ⟨0x4024000000000000⟩

/-- Twenty milliseconds. -/
def slow : Double := ⟨0x4034000000000000⟩

/-- Two passes: both backends are fast in the first, and the second one is slow in the second. -/
def slowing : List (List Found × Nat) :=
  [([⟨"probe", .ok (pair fast fast)⟩], 0), ([⟨"probe", .ok (pair fast slow)⟩], 1)]

/-- A router that ranks whatever has a sample. -/
def ranking : Router :=
  { locators := [], strategy := .minimumHistory 1 none, affinity := ⟨[], none⟩, interval := ⟨0⟩ }

/-- Both backends are admitted as they are found. -/
theorem make_pair {y : Double} (hy : y = fast ∨ y = slow) (now : Nat) :
    Selection.make (.minimumHistory 1 none) [⟨"probe", .ok (pair fast y)⟩] now =
      ⟨pair fast y, pair fast y, none, now⟩ := by
  have hselect : (Strategy.minimumHistory 1 none).select (pair fast y) = .ok (pair fast y) := by
    rcases hy with rfl | rfl
    · show Except.ok ((pair fast fast).mergeSort Strategy.rankLe) = _
      rw [List.mergeSort_of_pairwise (by decide)]
    · show Except.ok ((pair fast slow).mergeSort Strategy.rankLe) = _
      rw [List.mergeSort_of_pairwise (by decide)]
  have hmerge : Selection.merge [⟨"probe", .ok (pair fast y)⟩] = pair fast y := rfl
  rw [Selection.make, hmerge, hselect]
  rfl

/-- The second pass is published under the rule of the first. -/
theorem state_slowing :
    (ranking.adoptAll slowing).state =
      ⟨some ⟨pair fast slow, pair fast slow, none, 1⟩,
        Rule.of? (pair fast fast) (.minimumHistory 1 none)⟩ := by
  rw [state_adoptAll]
  simp only [slowing, List.map_cons, List.map_nil]
  rw [show ranking.strategy = .minimumHistory 1 none from rfl, make_pair (Or.inl rfl),
    make_pair (Or.inr rfl)]
  rfl

/-- The rule still counts both as fast, and its second pick goes to the slow one. -/
theorem slowing_rule :
    ∃ rule, (ranking.adoptAll slowing).state.rule = some rule ∧
      rule.selection = pair fast fast ∧ (rule.pick { turns := 1 }).1.identity = ("http", "b:8080") := by
  rw [state_slowing]
  exact ⟨⟨pair fast fast, .minimumHistory 1 none, by decide⟩, rfl, rfl, by decide⟩

/-! ## Whole runs -/

/-- **What picks are best by.**  After any passes under `minimumHistory`, the rule in force holds the
endpoints as the last pass that installed a rule admitted them.  Every pick has an admitted endpoint of the
same backend in the published outcome, and it is best by the metrics of the pass that installed the rule.
For all cursors it is best by the published metrics too exactly if no more backends (counted up to 2⁶⁴) are
tied for the best in the rule than in the published outcome. -/
theorem forall_pick_servesLeast_iff {r : Router} {m : Nat} {k : Option Nat} (hnew : r.state = {})
    (hstrategy : r.strategy = .minimumHistory m k) (rounds : List (List Found × Nat)) {rule : Rule}
    (hrule : (r.adoptAll rounds).state.rule = some rule) :
    ∃ published x, (r.adoptAll rounds).state.selection = some published ∧
      r.InstalledBy rounds x ∧ rule.selection = (Selection.make r.strategy x.1 x.2).admitted ∧
      (∀ cursor, ∃ c ∈ published.admitted, c.identity = (rule.pick cursor).1.identity) ∧
      (∀ cursor, (rule.pick cursor).1.IsLeastIn rule.selection) ∧
      ((∀ cursor, published.ServesLeast (rule.pick cursor).1) ↔
        min (leadingTies rule.selection) UInt64.size ≤ leadingTies published.admitted) := by
  have hsound := isSound_adoptAll hnew rounds
  rw [hstrategy] at hsound
  have hnone : r.state.rule = none := by rw [hnew]
  obtain ⟨x, hx, hselection⟩ := exists_installedBy hnone rounds hrule
  obtain ⟨-, -, published, hpublished, hsame⟩ := hsound.rule rule hrule
  refine ⟨published, x, hpublished, hx, hselection, ?_, hsound.pick_isLeastIn hrule,
    hsound.pick_servesLeast_iff hrule hpublished⟩
  intro cursor
  have hmem : (rule.pick cursor).1.identity ∈ rule.selection.map Endpoint.identity :=
    List.mem_map_of_mem (rule.pick_mem cursor)
  -- the rule and the published outcome hold the same backends
  rw [hsame] at hmem
  exact List.mem_map.1 hmem

/-- The last pass of this run that installs a rule sees two fast backends.  They are tied in the rule and one
of them is best in what is published, so some cursor picks a backend that is not best any more. -/
theorem forall_pick_servesLeast_iff_slowing :
    ∃ rule published x, (ranking.adoptAll slowing).state.rule = some rule ∧
      (ranking.adoptAll slowing).state.selection = some published ∧
      ranking.InstalledBy slowing x ∧
      (Selection.make (.minimumHistory 1 none) x.1 x.2).admitted = pair fast fast ∧
      leadingTies rule.selection = 2 ∧ leadingTies published.admitted = 1 ∧
      (∀ cursor, (rule.pick cursor).1.IsLeastIn rule.selection) ∧
      ¬ ∀ cursor, published.ServesLeast (rule.pick cursor).1 := by
  obtain ⟨rule, hrule, hselection, -⟩ := slowing_rule
  obtain ⟨published, x, hpublished, hx, hadmitted, -, hleast, hiff⟩ :=
    forall_pick_servesLeast_iff (r := ranking) rfl rfl slowing hrule
  have htwo : leadingTies rule.selection = 2 := by
    rw [hselection]
    decide
  have hone : leadingTies published.admitted = 1 := by
    rw [state_slowing] at hpublished
    rw [← Option.some.inj hpublished]
    decide
  refine ⟨rule, published, x, hrule, hpublished, hx, hadmitted.symm.trans hselection, htwo, hone,
    hleast, ?_⟩
  rw [hiff, htwo, hone]
  decide

/-- A pick need not be best by the metrics that are published beside its rule. -/
theorem pick_may_lag :
    ¬ ∀ (r : Router) (m : Nat) (k : Option Nat) (rounds : List (List Found × Nat)) (rule : Rule)
      (published : Selection) (cursor : Cursor), r.state = {} → r.strategy = .minimumHistory m k →
      (r.adoptAll rounds).state.rule = some rule →
      (r.adoptAll rounds).state.selection = some published →
      published.ServesLeast (rule.pick cursor).1 := by
  intro hclaim
  obtain ⟨rule, hrule, -, hpick⟩ := slowing_rule
  have hpublished : (ranking.adoptAll slowing).state.selection =
      some ⟨pair fast slow, pair fast slow, none, 1⟩ := by
    rw [state_slowing]
  obtain ⟨c, hc, hid, x, hx, hleast⟩ :=
    hclaim ranking 1 none slowing rule _ { turns := 1 } rfl rfl hrule hpublished
  rw [hpick] at hid
  -- the published endpoint of the picked backend is the slow one, and the other one is faster
  have hslow : ∀ e ∈ pair fast slow, e.identity = ("http", "b:8080") → e.history.value = some slow := by
    decide
  have hxslow : x = slow := Option.some.inj (hx.symm.trans (hslow c hc hid))
  obtain ⟨y, hy, hle⟩ := hleast (pair fast slow)[0] (by decide)
  have hyfast : fast = y := Option.some.inj hy
  rw [hxslow, ← hyfast] at hle
  exact absurd hle (by decide)

end Router

end Switchyard
