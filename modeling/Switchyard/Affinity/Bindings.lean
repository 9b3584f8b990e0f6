/-
Which backend each client is bound to.

`Bindings` holds at most one binding for a key.  What each operation does is said by what `get?` finds
after it.
-/
import Switchyard.Endpoint

namespace Switchyard

/-- The backend a client was sent to, and when, in nanoseconds. -/
structure Binding where
  endpoint : Endpoint
  boundAt : Nat
deriving DecidableEq, Repr

/-- Bindings by client key. -/
structure Bindings where
  entries : List (String × Binding)
  nodup : (entries.map (·.1)).Nodup

namespace Bindings

/-! ## Operations -/

def empty : Bindings := ⟨[], by simp⟩

/-- How many clients are bound. -/
def size (b : Bindings) : Nat := b.entries.length

/-- The binding of a key. -/
def get? (b : Bindings) (key : String) : Option Binding := b.entries.lookup key

/-- The bindings for which a test holds. -/
def keepIf (b : Bindings) (p : String → Binding → Bool) : Bindings :=
  ⟨b.entries.filter fun e => p e.1 e.2, (List.filter_sublist.map _).nodup b.nodup⟩

/-- Binds a key, in place of what it was bound to. -/
def insert (b : Bindings) (key : String) (binding : Binding) : Bindings :=
  ⟨(key, binding) :: (b.entries.filter fun e => e.1 ≠ key), by
    simp only [List.map_cons, List.nodup_cons]
    exact ⟨by simp, (List.filter_sublist.map _).nodup b.nodup⟩⟩

/-- Removes the binding of a key if a test holds for it. -/
def removeIf (b : Bindings) (key : String) (p : Binding → Bool) : Bindings :=
  b.keepIf fun k binding => !(k == key && p binding)

/-! ## What is found afterwards -/

@[simp] theorem get?_empty (key : String) : empty.get? key = none := rfl

theorem lookup_filter_self {l : List (String × Binding)} {key : String}
    {p : String → Binding → Bool} (hl : (l.map (·.1)).Nodup) :
    (l.filter fun e => p e.1 e.2).lookup key = (l.lookup key).filter (p key) := by
  induction l with
  | nil => rfl
  | cons e l ih =>
      obtain ⟨k, binding⟩ := e
      simp only [List.map_cons, List.nodup_cons, List.mem_map, not_exists, not_and] at hl
      have ih := ih hl.2
      by_cases hk : key = k
      · subst hk
        have hnone : l.lookup key = none := by
          rw [List.lookup_eq_none_iff]
          intro e he
          exact bne_iff_ne.2 fun h => hl.1 e he h.symm
        by_cases hp : p key binding
        · simp [hp, Option.filter]
        · simp [hp, Option.filter, ih, hnone]
      · have hkb : (key == k) = false := by simpa using hk
        by_cases hp : p k binding
        · simp [hp, List.lookup_cons, hkb, ih]
        · simp [hp, List.lookup_cons, hkb, ih]

/-- Keeping by a test keeps exactly the bindings that pass it. -/
@[simp] theorem get?_keepIf (b : Bindings) (p : String → Binding → Bool) (key : String) :
    (b.keepIf p).get? key = (b.get? key).filter (p key) := lookup_filter_self b.nodup

/-- An inserted binding is found under its key, and other keys find what they found. -/
theorem get?_insert (b : Bindings) (key other : String) (binding : Binding) :
    (b.insert key binding).get? other = if other = key then some binding else b.get? other := by
  by_cases h : other = key
  · simp [insert, get?, h]
  · have hb : (other == key) = false := by simpa using h
    have := @lookup_filter_self b.entries other (fun k _ => decide (k ≠ key)) b.nodup
    simp only [insert, get?, List.lookup_cons, hb, h, if_false, this]
    cases b.entries.lookup other <;> simp [Option.filter, h]

/-- A removal touches no other key, and its own only where the test holds. -/
@[simp] theorem get?_removeIf (b : Bindings) (key other : String) (p : Binding → Bool) :
    (b.removeIf key p).get? other =
      (b.get? other).filter fun binding => !(other == key && p binding) := by
  simp [removeIf]

end Bindings

end Switchyard
