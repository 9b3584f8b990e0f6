/-
The steps of a refresh, and what a whole one does to bindings.

Whoever enters becomes the writer or a waiter, as the gate stands.  A refresh by a writer is a pass and
nothing else (`refresh_of_free`), one by a waiter leaves the router alone.  In either case nobody is bound
by it: who was bound stays so or is bound no more (`get?_refresh`).
-/
import Switchyard.Router

namespace Switchyard

namespace Router

/-! ## Entering -/

theorem enter_of_free {r : Router} (h : r.gate.held = false) :
    r.enter.1 = .writer ∧ r.enter.2.1 = { r with gate := { r.gate with held := true } } := by
  rw [enter, Gate.enter_of_free h]
  exact ⟨rfl, rfl⟩

theorem enter_of_held {r : Router} (h : r.gate.held = true) :
    r.enter.1 = .waiter (r.gate.generation + 1) ∧ r.enter.2.1 = r := by
  rw [enter, Gate.enter_of_held h]
  exact ⟨rfl, rfl⟩

/-- Who becomes the writer found the gate free, and holds it from then on. -/
theorem enter_writer {r : Router} (h : r.enter.1 = .writer) :
    r.gate.held = false ∧ r.enter.2.1 = { r with gate := { r.gate with held := true } } := by
  cases hheld : r.gate.held with
  | false => exact ⟨rfl, (enter_of_free hheld).2⟩
  | true =>
    rw [(enter_of_held hheld).1] at h
    cases h

/-- Who becomes a waiter found the gate held, and waits for the turn that it met. -/
theorem enter_waiter {r : Router} {target : Nat} (h : r.enter.1 = .waiter target) :
    r.gate.held = true ∧ target = r.gate.generation + 1 ∧ r.enter.2.1 = r := by
  cases hheld : r.gate.held with
  | false =>
    rw [(enter_of_free hheld).1] at h
    cases h
  | true =>
    rw [(enter_of_held hheld).1] at h
    cases h
    exact ⟨rfl, rfl, (enter_of_held hheld).2⟩

/-! ## Whole refreshes -/

/-- A refresh that finds the gate free takes the turn, makes its pass and gives the turn back. -/
theorem refresh_of_free {r : Router} (h : r.gate.held = false) (net : Network) (now : Nat) :
    (r.refresh net now).2.1 =
      ((r.enter.2.1.discover net).2.1.adopt (r.enter.2.1.discover net).1 now).1.leave := by
  obtain ⟨hwriter, -⟩ := enter_of_free h
  rw [refresh]
  generalize r.enter = entered at hwriter ⊢
  obtain ⟨entry, inside, events⟩ := entered
  cases hwriter
  rfl

/-- A refresh that finds the gate held leaves it to another one. -/
theorem refresh_of_held {r : Router} (h : r.gate.held = true) (net : Network) (now : Nat) :
    (r.refresh net now).2.1 = r := by
  obtain ⟨hwaiter, hsame⟩ := enter_of_held h
  rw [refresh]
  generalize r.enter = entered at hwaiter hsame ⊢
  obtain ⟨entry, outside, events⟩ := entered
  cases hwaiter
  exact hsame

/-- Whatever is published, what was set up stays. -/
theorem settings_publish (r : Router) (t : RouterState.Transition) :
    (r.publish t).locators = r.locators ∧ (r.publish t).strategy = r.strategy ∧
      (r.publish t).affinity = r.affinity ∧ (r.publish t).interval = r.interval := by
  cases t with
  | install | replace | keep => exact ⟨rfl, rfl, rfl, rfl⟩

/-- A refresh that finds the gate free asks the locators once; everything else that was set up stays. -/
theorem settings_refresh {r : Router} (h : r.gate.held = false) (net : Network) (now : Nat) :
    (r.refresh net now).2.1.locators = (Locator.discoverAll net r.locators).2.1 ∧
      (r.refresh net now).2.1.strategy = r.strategy ∧ (r.refresh net now).2.1.affinity = r.affinity ∧
      (r.refresh net now).2.1.interval = r.interval := by
  rw [refresh_of_free h, (enter_of_free h).2]
  exact settings_publish _ _

/-! ## Bindings -/

theorem bindings_publish (r : Router) (t : RouterState.Transition) :
    (r.publish t).bindings = r.bindings := by
  cases t <;> rfl

/-- Pruning binds nobody. -/
theorem get?_prune (a : Affinity) (bindings : Bindings) (now : Nat) (rule : Option Rule)
    (key : String) :
    (a.prune bindings now rule).get? key = bindings.get? key ∨
      (a.prune bindings now rule).get? key = none := by
  cases rule with
  | none => exact Or.inr rfl
  | some rule =>
    rw [Affinity.prune, Bindings.get?_keepIf]
    cases bindings.get? key with
    | none => exact Or.inl rfl
    | some b => cases husable : a.isUsable now rule b <;> simp [Option.filter, husable]

/-- Applying a pass prunes the bindings by what it has published, and does nothing else to them. -/
theorem exists_bindings_apply (r : Router) (next : Selection) (now : Nat) :
    ∃ a rule, (r.apply next now).1.bindings = Affinity.prune a r.bindings now rule := by
  refine ⟨(r.publish (r.state.transition next r.strategy)).affinity,
    (r.publish (r.state.transition next r.strategy)).state.rule, ?_⟩
  rw [← bindings_publish r (r.state.transition next r.strategy)]
  rfl

/-- A refresh binds nobody: who was bound stays so or is bound no more. -/
theorem get?_refresh (r : Router) (net : Network) (now : Nat) (key : String) :
    (r.refresh net now).2.1.bindings.get? key = r.bindings.get? key ∨
      (r.refresh net now).2.1.bindings.get? key = none := by
  cases hheld : r.gate.held with
  | true =>
    rw [refresh_of_held hheld]
    exact Or.inl rfl
  | false =>
    rw [refresh_of_free hheld]
    -- neither entering nor asking concerns bindings, and giving the turn back does not either
    have hasked : (r.enter.2.1.discover net).2.1.bindings = r.bindings := by
      rw [(enter_of_free hheld).2]
      rfl
    obtain ⟨a, rule, happlied⟩ := exists_bindings_apply (r.enter.2.1.discover net).2.1
      (Selection.make (r.enter.2.1.discover net).2.1.strategy (r.enter.2.1.discover net).1 now) now
    rw [leave, adopt, happlied, hasked]
    exact get?_prune a r.bindings now rule key

end Router

end Switchyard
