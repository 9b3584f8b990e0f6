/-
What every published state satisfies.

The published outcome is that of a pass, and the rule in force was made from the admitted endpoints of a
pass, perhaps an earlier one: both name the same backends in the same order, but the rule keeps the
endpoints as they were when it was installed.  `IsSound.after` is the step, `isSound_afterAll` the run,
and `state_adoptAll` brings both to a router that refreshes.  `exists_installedBy` finds the pass that a
rule comes from.
-/
import Switchyard.Proofs.Router.Merge
import Switchyard.Proofs.Selection
import Switchyard.Router

namespace Switchyard

namespace RouterState

/-! ## Published states -/

/-- The outcome is sound, and the rule is for the backends of the outcome, as some sound pass saw them. -/
structure IsSound (strategy : Strategy) (s : RouterState) : Prop where
  selection : ∀ r, s.selection = some r → r.IsSound strategy
  rule : ∀ rule, s.rule = some rule → rule.strategy = strategy ∧
    (∃ origin : Selection, origin.IsSound strategy ∧ rule.selection = origin.admitted) ∧
    ∃ r, s.selection = some r ∧
      rule.selection.map Endpoint.identity = r.admitted.map Endpoint.identity

theorem isSound_default (strategy : Strategy) : IsSound strategy {} := by
  refine ⟨?_, ?_⟩
  · intro r h
    cases h
  · intro rule h
    cases h

/-- A sound pass leaves a sound state sound. -/
theorem IsSound.after {strategy : Strategy} {s : RouterState} {next : Selection}
    (hs : s.IsSound strategy) (hnext : next.IsSound strategy) :
    (s.after next strategy).IsSound strategy := by
  have hselection : ∀ r, some next = some r → r.IsSound strategy := by
    rintro r ⟨⟩
    exact hnext
  rcases transition_cases s next strategy with
    ⟨-, hu, ht⟩ | ⟨-, -, ht⟩ | ⟨-, -, ht⟩ | ⟨-, -, ht⟩
  · rw [RouterState.after, ht]
    refine ⟨hselection, ?_⟩
    intro rule hrule
    obtain ⟨hstrategy, horigin, r, hr, hsame⟩ := hs.rule rule hrule
    refine ⟨hstrategy, horigin, next, rfl, ?_⟩
    -- the published pass and the next one admit the same backends
    rw [isUnchanged, Bool.and_eq_true, hr, Option.any_some, Endpoint.sameAll_iff] at hu
    rw [hsame, hu.2]
  · rw [RouterState.after, ht]
    refine ⟨hselection, ?_⟩
    intro rule hrule
    -- a new rule is made of what the pass itself admits
    obtain ⟨hadmitted, hstrategy⟩ := Rule.selection_of? hrule
    exact ⟨hstrategy, ⟨next, hnext, hadmitted⟩, next, rfl, by rw [hadmitted]⟩
  · rw [RouterState.after, ht]
    exact hs
  · rw [RouterState.after, ht]
    refine ⟨hselection, ?_⟩
    intro rule hrule
    cases hrule

theorem isSound_afterAll {strategy : Strategy} {s : RouterState} {rs : List Selection}
    (hs : s.IsSound strategy) (hrs : ∀ r ∈ rs, r.IsSound strategy) :
    (s.afterAll strategy rs).IsSound strategy := by
  induction rs using List.reverseRecOn with
  | nil => exact hs
  | append_singleton rs r ih =>
    rw [afterAll_snoc]
    apply IsSound.after
    · exact ih fun x hx => hrs x (List.mem_append_left _ hx)
    · exact hrs r (by simp)

/-- The backend a rule dispatches to stands in the published outcome, vouched for by the strategy, and
it is the only candidate of its identity. -/
theorem IsSound.exists_candidate {strategy : Strategy} {s : RouterState} (h : s.IsSound strategy)
    {rule : Rule} (hrule : s.rule = some rule) {e : Endpoint}
    (he : e.identity ∈ rule.selection.map Endpoint.identity) :
    ∃ r c, s.selection = some r ∧ c ∈ r.candidates ∧ c.identity = e.identity ∧
      strategy.Vouches c ∧ ∀ o ∈ r.candidates, o.identity = e.identity → o = c := by
  obtain ⟨-, -, r, hr, hsame⟩ := h.rule rule hrule
  have hsound := h.selection r hr
  rw [hsame] at he
  obtain ⟨c, hc, hid⟩ := List.mem_map.1 he
  have hcandidate := hsound.mem_candidates c hc
  refine ⟨r, c, hr, hcandidate, hid, hsound.vouches c hc, ?_⟩
  intro o ho hoid
  exact Endpoint.eq_of_identity_eq hsound.nodup_candidates ho hcandidate (hoid.trans hid.symm)

end RouterState

/-! ## Routers that refresh -/

namespace Router

@[simp] theorem strategy_publish (r : Router) (t : RouterState.Transition) :
    (r.publish t).strategy = r.strategy := by
  cases t <;> rfl

/-- What is published of a pass is decided by the state that it found. -/
@[simp] theorem state_publish (r : Router) (next : Selection) (strategy : Strategy) :
    (r.publish (r.state.transition next strategy)).state = r.state.after next strategy := by
  rw [RouterState.after]
  cases r.state.transition next strategy <;> rfl

/-- The router after some passes in a row: what the locators found in each, and when. -/
def adoptAll (r : Router) (rounds : List (List Found × Nat)) : Router :=
  rounds.foldl (fun r x => (r.adopt x.1 x.2).1) r

theorem state_adopt (r : Router) (found : List Found) (now : Nat) :
    (r.adopt found now).1.state =
      r.state.after (Selection.make r.strategy found now) r.strategy :=
  state_publish r (Selection.make r.strategy found now) r.strategy

theorem strategy_adopt (r : Router) (found : List Found) (now : Nat) :
    (r.adopt found now).1.strategy = r.strategy :=
  strategy_publish r (r.state.transition (Selection.make r.strategy found now) r.strategy)

theorem state_adoptAll (r : Router) (rounds : List (List Found × Nat)) :
    (r.adoptAll rounds).state = r.state.afterAll r.strategy
      (rounds.map fun x => Selection.make r.strategy x.1 x.2) := by
  induction rounds generalizing r with
  | nil => rfl
  | cons x rounds ih =>
    show (((r.adopt x.1 x.2).1).adoptAll rounds).state = _
    rw [ih, state_adopt, strategy_adopt]
    rfl

/-- Whatever is found in whatever passes, the published state is sound. -/
theorem isSound_adoptAll {r : Router} (h : r.state = {}) (rounds : List (List Found × Nat)) :
    (r.adoptAll rounds).state.IsSound r.strategy := by
  rw [state_adoptAll, h]
  apply RouterState.isSound_afterAll (RouterState.isSound_default r.strategy)
  intro next hnext
  obtain ⟨x, -, rfl⟩ := List.mem_map.1 hnext
  exact Selection.isSound_make r.strategy x.1 x.2

theorem strategy_adoptAll (r : Router) (rounds : List (List Found × Nat)) :
    (r.adoptAll rounds).strategy = r.strategy := by
  induction rounds generalizing r with
  | nil => rfl
  | cons x rounds ih => exact (ih _).trans (strategy_adopt r x.1 x.2)

theorem adoptAll_snoc (r : Router) (rounds : List (List Found × Nat)) (x : List Found × Nat) :
    r.adoptAll (rounds ++ [x]) = ((r.adoptAll rounds).adopt x.1 x.2).1 := by
  rw [adoptAll, List.foldl_append]
  rfl

/-! ## Where a rule comes from -/

/-- The rule stays, or the pass installs one of its own, or there is none any more; only an installation
counts as one. -/
theorem adopt_cases (r : Router) (found : List Found) (now : Nat) :
    ((r.adopt found now).1.state.rule = r.state.rule ∧ (r.adopt found now).1.installs = r.installs) ∨
    ((r.adopt found now).1.state.rule =
        Rule.of? (Selection.make r.strategy found now).admitted r.strategy ∧
      (r.adopt found now).1.installs = r.installs + 1) ∨
    ((r.adopt found now).1.state.rule = none ∧ (r.adopt found now).1.installs = r.installs) := by
  generalize hnext : Selection.make r.strategy found now = next
  have hstate : (r.adopt found now).1.state = r.state.after next r.strategy := by
    rw [state_adopt, hnext]
  have hinstalls : (r.adopt found now).1.installs =
      (r.publish (r.state.transition next r.strategy)).installs := by
    rw [← hnext]
    rfl
  rw [hstate, hinstalls, RouterState.after]
  rcases RouterState.transition_cases r.state next r.strategy with
    ⟨-, -, ht⟩ | ⟨-, -, ht⟩ | ⟨-, -, ht⟩ | ⟨-, -, ht⟩
  · rw [ht]
    exact Or.inl ⟨rfl, rfl⟩
  · rw [ht]
    exact Or.inr (Or.inl ⟨rfl, rfl⟩)
  · rw [ht]
    exact Or.inl ⟨rfl, rfl⟩
  · rw [ht]
    exact Or.inr (Or.inr ⟨rfl, rfl⟩)

/-- Of some passes, `x` is the last one that installs a rule: it is counted, and none after it is. -/
def InstalledBy (r : Router) (rounds : List (List Found × Nat)) (x : List Found × Nat) : Prop :=
  ∃ before after, rounds = before ++ [x] ++ after ∧
    (r.adoptAll (before ++ [x])).installs = (r.adoptAll before).installs + 1 ∧
    (r.adoptAll rounds).installs = (r.adoptAll (before ++ [x])).installs

/-- A pass that installs nothing leaves the last installation as it was. -/
theorem InstalledBy.snoc {r : Router} {rounds : List (List Found × Nat)} {x y : List Found × Nat}
    (h : r.InstalledBy rounds x)
    (hsame : (r.adoptAll (rounds ++ [y])).installs = (r.adoptAll rounds).installs) :
    r.InstalledBy (rounds ++ [y]) x := by
  obtain ⟨before, after, rfl, hinstalls, hlast⟩ := h
  exact ⟨before, after ++ [y], List.append_assoc _ _ _, hinstalls, hsame.trans hlast⟩

/-- A rule in force holds what was admitted by the last pass that installed one. -/
theorem exists_installedBy {r : Router} (hnew : r.state.rule = none)
    (rounds : List (List Found × Nat)) {rule : Rule} (hrule : (r.adoptAll rounds).state.rule = some rule) :
    ∃ x, r.InstalledBy rounds x ∧
      rule.selection = (Selection.make r.strategy x.1 x.2).admitted := by
  induction rounds using List.reverseRecOn with
  | nil =>
    rw [show r.adoptAll [] = r from rfl, hnew] at hrule
    cases hrule
  | append_singleton rounds x ih =>
    have hcases := adopt_cases (r.adoptAll rounds) x.1 x.2
    rw [strategy_adoptAll, ← adoptAll_snoc] at hcases
    rcases hcases with ⟨hkept, hsame⟩ | ⟨hmade, hinstalled⟩ | ⟨hcleared, -⟩
    · obtain ⟨y, hy, hselection⟩ := ih (hkept ▸ hrule)
      exact ⟨y, hy.snoc hsame, hselection⟩
    · rw [hmade] at hrule
      exact ⟨x, ⟨rounds, [], (List.append_nil _).symm, hinstalled, rfl⟩, (Rule.selection_of? hrule).1⟩
    · rw [hcleared] at hrule
      cases hrule

end Router

end Switchyard
