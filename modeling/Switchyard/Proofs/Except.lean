/-
Steps that can fail.

Whatever comes out of a chain of such steps has gone through each of them, and going over a list succeeds
exactly if every element does.
-/
namespace Switchyard

variable {α β ε : Type}

theorem exists_of_map_eq_ok {x : Except ε α} {f : α → β} {y : β} (h : x.map f = .ok y) :
    ∃ a, x = .ok a ∧ f a = y := by
  cases x with
  | error e => cases h
  | ok a => exact ⟨a, rfl, Except.ok.inj h⟩

theorem exists_of_bind_eq_ok {x : Except ε α} {f : α → Except ε β} {y : β} (h : x >>= f = .ok y) :
    ∃ a, x = .ok a ∧ f a = .ok y := by
  cases x with
  | error e => cases h
  | ok a => exact ⟨a, rfl, h⟩

/-- What succeeds over a list goes on over what follows it. -/
theorem foldlM_append_of_ok {step : β → α → Except ε β} {xs ys : List α} {start next : β}
    (h : xs.foldlM step start = .ok next) : (xs ++ ys).foldlM step start = ys.foldlM step next := by
  rw [List.foldlM_append, h]
  rfl

/-- Checks of a list succeed if each does. -/
theorem forM_eq_ok {check : α → Except ε Unit} {xs : List α} :
    xs.forM check = .ok () ↔ ∀ x ∈ xs, check x = .ok () := by
  induction xs with
  | nil => simp [List.forM, pure, Except.pure]
  | cons x xs ih =>
      show (check x >>= fun _ => xs.forM check) = .ok () ↔ _
      cases hx : check x with
      | error e => simp [hx, bind, Except.bind]
      | ok u => simpa [hx, bind, Except.bind] using ih

/-- A list can be made if each of its elements can. -/
theorem exists_mapM_eq_ok {make : α → Except ε β} {xs : List α} :
    (∃ ys, xs.mapM make = .ok ys) ↔ ∀ x ∈ xs, ∃ y, make x = .ok y := by
  induction xs with
  | nil => simp [pure, Except.pure]
  | cons x xs ih =>
      rw [List.mapM_cons, List.forall_mem_cons, ← ih]
      cases make x with
      | error e => simp [bind, Except.bind]
      | ok y => cases xs.mapM make <;> simp [bind, Except.bind, pure, Except.pure]

end Switchyard
