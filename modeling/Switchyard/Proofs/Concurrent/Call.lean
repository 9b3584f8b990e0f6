/-
One call to refresh, step by step.

A `Call` is how far one caller has come: it takes the turn or waits for another's, asks the locators,
reads the published state, publishes what follows from it, and gives the turn back.  Between two of its
steps any other caller may move, and while it asks or waits it may be cancelled.  `Call.Step` is made of
the steps that `Router.refresh` runs in a row.

The lemmas say once what a step can do: to the gate (`gate_cases`), to the published state
(`state_cases`), to the pass that the call has in hand (`pass_cases`), and to everything else
(`quiet_of_not_hasPublished`).
-/
import Switchyard.Proofs.Router.Published
import Switchyard.Proofs.Router.Refresh

namespace Switchyard

/-- How far a call to refresh has come. -/
inductive Call where
  | fresh
  /-- Holds the turn and asks the locators. -/
  | selecting
  /-- All locators have answered, and this is the outcome. -/
  | selected (next : Selection)
  /-- Has read the state that the outcome will be merged into. -/
  | merging (next : Selection) (current : RouterState)
  /-- What follows from the outcome is published. -/
  | published (next : Selection)
  /-- The pass is counted as well. -/
  | counted
  /-- Bindings are pruned as well, so all that is left is to give the turn back. -/
  | applied
  /-- Was cancelled while it asked, and has not yet given the turn back. -/
  | abandoned
  /-- Waits until a generation is announced. -/
  | waiting (target : Nat)
  | performed
  | joined
  | cancelled

namespace Call

/-! ## Phases -/

/-- The turn has been taken and not been given back. -/
def holdsTurn : Call → Bool
  | selecting | selected _ | merging _ _ | published _ | counted | applied | abandoned => true
  | _ => false

/-- The published state has been read, and the pass is not fully applied yet. -/
def isApplying : Call → Bool
  | merging _ _ | published _ | counted => true
  | _ => false

/-- The pass has been applied. -/
def hasApplied : Call → Bool
  | applied | performed => true
  | _ => false

/-- What follows from the pass is published. -/
def hasPublished : Call → Bool
  | published _ | counted | applied | performed => true
  | _ => false

/-- The call has come to its end other than by waiting for another one. -/
def isOver : Call → Bool
  | performed | cancelled => true
  | _ => false

/-- The call was cancelled, whether or not its turn has been given back yet. -/
def isCancelled : Call → Bool
  | abandoned | cancelled => true
  | _ => false

/-- The outcome that is still to be published. -/
def pending : Call → Option Selection
  | selected next | merging next _ => some next
  | _ => none

/-- With no application under way, what is published is what is applied. -/
theorem hasPublished_eq_hasApplied {c : Call} (h : c.isApplying = false) :
    c.hasPublished = c.hasApplied := by
  cases c with
  | published _ => cases h
  | counted => cases h
  | _ => rfl

/-- Who has published is not cancelled any more. -/
theorem isCancelled_eq_false {c : Call} (h : c.hasPublished = true) : c.isCancelled = false := by
  cases c with
  | abandoned => cases h
  | cancelled => cases h
  | _ => rfl

theorem eq_of_isOver {c : Call} (h : c.isOver = true) : c = cancelled ∨ c = performed := by
  cases c with
  | performed => exact Or.inr rfl
  | cancelled => exact Or.inl rfl
  | _ => cases h

/-- An outcome is in hand only while the turn is held. -/
theorem holdsTurn_of_pending {c : Call} {next : Selection} (h : c.pending = some next) :
    c.holdsTurn = true := by
  cases c with
  | selected _ => rfl
  | merging _ _ => rfl
  | _ => cases h

/-- Who applies a pass holds the turn. -/
theorem holdsTurn_of_isApplying {c : Call} (h : c.isApplying = true) : c.holdsTurn = true := by
  cases c with
  | merging _ _ | published _ | counted => rfl
  | _ => cases h

/-! ## Steps -/

/-- What a step of a call does, as others may see it. -/
inductive Act where
  | enter
  | ask
  | collect (next : Selection)
  | read
  | publish (next : Selection)
  | count
  | prune
  | leave
  | cancel
  | resume

/-- The outcome that the locators' answers came to. -/
def Act.collected : Act → Option Selection
  | collect next => some next
  | _ => none

/-- The outcome that was published. -/
def Act.applied : Act → Option Selection
  | publish next => some next
  | _ => none

/-- One step of a call at some time.  What the locators answer is left open, and so is what they
remember of having been asked. -/
inductive Step (now : Nat) : Router → Call → Act → Router → Call → Prop
  | takeTurn {r : Router} (h : r.enter.1 = .writer) : Step now r fresh .enter r.enter.2.1 selecting
  | takePlace {r : Router} {target : Nat} (h : r.enter.1 = .waiter target) :
      Step now r fresh .enter r.enter.2.1 (waiting target)
  /-- Some locators are asked or answer. -/
  | ask {r : Router} (locators : List Locator) :
      Step now r selecting .ask { r with locators } selecting
  /-- The last locator has answered. -/
  | collect {r : Router} (locators : List Locator) (found : List Found) :
      Step now r selecting (.collect (Selection.make r.strategy found now)) { r with locators }
        (selected (Selection.make r.strategy found now))
  | read {r : Router} {next : Selection} :
      Step now r (selected next) .read r (merging next r.state)
  | publish {r : Router} {next : Selection} {current : RouterState} :
      Step now r (merging next current) (.publish next)
        (r.publish (current.transition next r.strategy)) (published next)
  | count {r : Router} {next : Selection} :
      Step now r (published next) .count
        { r with
          metrics := r.metrics.recordSelection next.admitted.length next.error.isSome } counted
  | prune {r : Router} : Step now r counted .prune (r.prune now).1 applied
  | leave {r : Router} : Step now r applied .leave r.leave performed
  -- a call can be cancelled before its first step, while it asks (the turn is then still to be given
  -- back) and while it waits; from collecting to leaving it never waits, so there it cannot be
  | forget {r : Router} : Step now r fresh .cancel r cancelled
  | abandon {r : Router} : Step now r selecting .cancel r abandoned
  | release {r : Router} : Step now r abandoned .leave r.leave cancelled
  | giveUp {r : Router} {target : Nat} : Step now r (waiting target) .cancel r cancelled
  | resume {r : Router} {target : Nat} (h : r.gate.isReady target = true) :
      Step now r (waiting target) .resume r joined

end Call

namespace Call.Step

variable {now : Nat} {r r' : Router} {c c' : Call} {act : Act}

/-! ## What a step does -/

/-- A step leaves alone what the router was built with, and how far its picks have come. -/
theorem frame (h : Step now r c act r' c') :
    r'.strategy = r.strategy ∧ r'.interval = r.interval ∧ r'.cursor = r.cursor := by
  cases h with
  | takeTurn h =>
    obtain ⟨-, hr⟩ := Router.enter_writer h
    rw [hr]
    exact ⟨rfl, rfl, rfl⟩
  | takePlace h =>
    obtain ⟨-, -, hr⟩ := Router.enter_waiter h
    rw [hr]
    exact ⟨rfl, rfl, rfl⟩
  | @publish next current =>
    cases current.transition next r.strategy with
    | install | replace | keep => exact ⟨rfl, rfl, rfl⟩
  | _ => exact ⟨rfl, rfl, rfl⟩

theorem strategy_eq (h : Step now r c act r' c') : r'.strategy = r.strategy := h.frame.1

/-- A step takes the turn of a free gate, gives the turn back, or leaves the gate alone. -/
theorem gate_cases (h : Step now r c act r' c') :
    (c.holdsTurn = false ∧ c'.holdsTurn = true ∧ r.gate.held = false ∧
      r'.gate = { r.gate with held := true }) ∨
    (c.holdsTurn = true ∧ c'.holdsTurn = false ∧ c'.isOver = true ∧ r'.gate = r.gate.release) ∨
    (c'.holdsTurn = c.holdsTurn ∧ r'.gate = r.gate) := by
  cases h with
  | takeTurn h =>
    obtain ⟨hfree, hr⟩ := Router.enter_writer h
    exact Or.inl ⟨rfl, rfl, hfree, by rw [hr]⟩
  | takePlace h =>
    obtain ⟨-, -, hr⟩ := Router.enter_waiter h
    exact Or.inr (Or.inr ⟨rfl, by rw [hr]⟩)
  | @publish next current =>
    -- whichever transition it is, publishing has nothing to do with the gate
    refine Or.inr (Or.inr ⟨rfl, ?_⟩)
    cases current.transition next r.strategy <;> rfl
  | leave => exact Or.inr (Or.inl ⟨rfl, rfl, rfl, rfl⟩)
  | release => exact Or.inr (Or.inl ⟨rfl, rfl, rfl, rfl⟩)
  | _ => exact Or.inr (Or.inr ⟨rfl, rfl⟩)

/-- A step publishes the outcome in hand, takes an outcome in hand, or does neither.  What is published
follows from the state that was read, which need not be the one in force. -/
theorem pass_cases (h : Step now r c act r' c') :
    (∃ next current, c = merging next current ∧ act = .publish next ∧ c' = published next ∧
      r' = r.publish (current.transition next r.strategy)) ∨
    (∃ next, c = selecting ∧ act = .collect next ∧ c' = selected next ∧
      next.IsSound r.strategy ∧ r'.state = r.state) ∨
    (act.applied = none ∧ act.collected = none ∧ c'.pending = c.pending ∧
      c'.hasPublished = c.hasPublished ∧ r'.state = r.state) := by
  cases h with
  | publish => exact Or.inl ⟨_, _, rfl, rfl, rfl, rfl⟩
  | collect _ found =>
    exact Or.inr (Or.inl ⟨_, rfl, rfl, rfl, Selection.isSound_make r.strategy found now, rfl⟩)
  | takeTurn h =>
    obtain ⟨-, hr⟩ := Router.enter_writer h
    exact Or.inr (Or.inr ⟨rfl, rfl, rfl, rfl, by rw [hr]⟩)
  | takePlace h =>
    obtain ⟨-, -, hr⟩ := Router.enter_waiter h
    exact Or.inr (Or.inr ⟨rfl, rfl, rfl, rfl, by rw [hr]⟩)
  | _ => exact Or.inr (Or.inr ⟨rfl, rfl, rfl, rfl, rfl⟩)

/-- A call that is about to publish has just read the state in force. -/
theorem current_eq (h : Step now r c act r' c') {next : Selection} {current : RouterState}
    (hc : c' = merging next current) : current = r.state ∧ r'.state = r.state := by
  cases h with
  | read =>
    cases hc
    exact ⟨rfl, rfl⟩
  | _ => cases hc -- no other step leads to this phase

/-- Until a call publishes, its steps change nothing that requests or readers could see. -/
theorem quiet_of_not_hasPublished (h : Step now r c act r' c') (hc : c'.hasPublished = false) :
    r'.state = r.state ∧ r'.bindings = r.bindings ∧ r'.metrics = r.metrics ∧
      r'.installs = r.installs := by
  cases h with
  | takeTurn h =>
    obtain ⟨-, hr⟩ := Router.enter_writer h
    rw [hr]
    exact ⟨rfl, rfl, rfl, rfl⟩
  | takePlace h =>
    obtain ⟨-, -, hr⟩ := Router.enter_waiter h
    rw [hr]
    exact ⟨rfl, rfl, rfl, rfl⟩
  -- from here on something is published
  | publish => cases hc
  | count => cases hc
  | prune => cases hc
  | leave => cases hc
  | _ => exact ⟨rfl, rfl, rfl, rfl⟩

/-! ## Where a call can get to -/

/-- What is published stays so. -/
theorem hasPublished_mono (h : Step now r c act r' c') (hc : c.hasPublished = true) :
    c'.hasPublished = true := by
  cases h with
  | count => rfl
  | prune => rfl
  | leave => rfl
  | _ => cases hc -- these start before anything is published

/-- A call that is over makes no step. -/
theorem not_isOver (h : Step now r c act r' c') : c.isOver = false := by
  cases h <;> rfl

/-- Who has become the writer holds the turn until it is done. -/
theorem holdsTurn_or_isOver (h : Step now r c act r' c')
    (hc : c.holdsTurn = true ∨ c.isOver = true) : c'.holdsTurn = true ∨ c'.isOver = true := by
  rcases hc with hturn | hover
  · rcases h.gate_cases with ⟨-, hheld, -⟩ | ⟨-, -, hover, -⟩ | ⟨heq, -⟩
    · exact Or.inl hheld
    · exact Or.inr hover
    · exact Or.inl (heq.trans hturn)
  · rw [h.not_isOver] at hover
    cases hover

/-- By entering, a call becomes the writer or waits for the turn that it met. -/
theorem enter_cases (h : Step now r c .enter r' c') :
    c = fresh ∧ (c' = selecting ∨
      (r.gate.held = true ∧ c' = waiting (r.gate.generation + 1) ∧ r'.gate = r.gate)) := by
  cases h with
  | takeTurn => exact ⟨rfl, Or.inl rfl⟩
  | takePlace h =>
    obtain ⟨hheld, rfl, hr⟩ := Router.enter_waiter h
    exact ⟨rfl, Or.inr ⟨hheld, rfl, by rw [hr]⟩⟩

/-- Who waits is cancelled, or returns once its generation is announced. -/
theorem waiting_cases {target : Nat} (h : Step now r (waiting target) act r' c') :
    r'.gate = r.gate ∧
      (c' = cancelled ∨ (c' = joined ∧ r.gate.isReady target = true)) := by
  cases h with
  | giveUp => exact ⟨rfl, Or.inl rfl⟩
  | resume h => exact ⟨rfl, Or.inr ⟨rfl, h⟩⟩

end Call.Step

end Switchyard
