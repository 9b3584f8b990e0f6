/-
One refresh at a time.

Whoever enters while no turn is held becomes the writer and holds the turn until it is released.  Who
enters meanwhile becomes a waiter; a waiter is ready once the turn it met has been released.
-/
namespace Switchyard

/-- The state of the gate. -/
structure Gate where
  /-- A writer holds the turn. -/
  held : Bool := false
  /-- How many turns have been released. -/
  generation : Nat := 0
  /-- The generation that waiters have been told of. -/
  announced : Nat := 0
deriving DecidableEq, Repr

namespace Gate

/-- What a caller becomes by entering. -/
inductive Entry where
  | writer
  /-- Ready when the given generation is announced. -/
  | waiter (target : Nat)
deriving DecidableEq, Repr

/-- Enters the gate. -/
def enter (g : Gate) : Entry × Gate :=
  if g.held then (.waiter (g.generation + 1), g) else (.writer, { g with held := true })

/-- Releases the turn, on any path, and tells the waiters. -/
def release (g : Gate) : Gate :=
  { held := false, generation := g.generation + 1, announced := g.generation + 1 }

/-- Whether a waiter need not wait any more. -/
def isReady (g : Gate) (target : Nat) : Bool := target ≤ g.announced

/-! ## Equations -/

@[simp] theorem enter_of_held {g : Gate} (h : g.held = true) :
    g.enter = (.waiter (g.generation + 1), g) := by
  simp [enter, h]

@[simp] theorem enter_of_free {g : Gate} (h : g.held = false) :
    g.enter = (.writer, { g with held := true }) := by
  simp [enter, h]

@[simp] theorem generation_release (g : Gate) : g.release.generation = g.generation + 1 := rfl

@[simp] theorem held_release (g : Gate) : g.release.held = false := rfl

end Gate

end Switchyard
