/-
What counters count.

A tally `Counts` a list of label values: as many in all, and as many of each kind.  A `Ledger` lists what
was booked and for whom.  Two ledgers in which everyone has the same entries differ only in the order of
different people's entries (`perm_of_of_eq`), so a tally that counts one of them counts the other.
-/
import Mathlib.Data.List.Perm.Basic
import Switchyard.Metrics

namespace Switchyard

/-! ## Tallies -/

namespace Tally

/-- The tally has an entry for each of some label values, repetitions included. -/
structure Counts (t : Tally) (entries : List (List String)) : Prop where
  total : t.total = entries.length
  count : ∀ labels, t.count labels = entries.count labels

theorem counts_nil : Counts [] [] := ⟨rfl, fun _ => rfl⟩

variable {t : Tally} {entries entries' : List (List String)}

theorem Counts.bump (h : t.Counts entries) (labels : List String) :
    (t.bump labels).Counts (entries ++ [labels]) := by
  constructor
  · rw [total_bump, h.total, List.length_append]
    rfl
  · intro other
    rw [count_bump, h.count, List.count_append, List.count_singleton]
    by_cases hother : other = labels
    · simp [hother]
    · have hne : (labels == other) = false := by simpa using Ne.symm hother
      simp [hother, hne]

theorem Counts.perm (h : t.Counts entries) (hperm : entries.Perm entries') : t.Counts entries' :=
  ⟨h.total.trans hperm.length_eq, fun labels => (h.count labels).trans (hperm.count_eq labels)⟩

end Tally

/-! ## Ledgers -/

/-- What was booked and for whom, in order. -/
abbrev Ledger (α : Type) := List (Nat × α)

namespace Ledger

variable {α β : Type} {book other : Ledger α} {j k : Nat}

/-- What was booked for one of them, in order. -/
def of (book : Ledger α) (j : Nat) : List α := (book.filter (·.1 = j)).map (·.2)

theorem of_append (book other : Ledger α) (j : Nat) : of (book ++ other) j = of book j ++ of other j := by
  rw [of, List.filter_append, List.map_append]
  rfl

theorem of_snoc_self (book : Ledger α) (j : Nat) (x : α) : of (book ++ [(j, x)]) j = of book j ++ [x] := by
  rw [of_append]
  simp [of]

theorem of_snoc_of_ne (book : Ledger α) (x : α) (h : k ≠ j) : of (book ++ [(k, x)]) j = of book j := by
  rw [of_append]
  simp [of, h]

theorem of_map (f : α → β) (book : Ledger α) (j : Nat) :
    of (book.map fun x => (x.1, f x.2)) j = (of book j).map f := by
  induction book with
  | nil => rfl
  | cons x book ih =>
      by_cases hx : x.1 = j <;> simp_all [of]

/-- What is booked anew for some of the entries. -/
theorem of_filterMap (f : Nat → α → Option β) (book : Ledger α) (j : Nat) :
    of (book.filterMap fun x => (f x.1 x.2).map (x.1, ·)) j = (of book j).filterMap (f j) := by
  induction book with
  | nil => rfl
  | cons x book ih =>
      rw [List.filterMap_cons]
      by_cases hx : x.1 = j
      · subst hx
        cases hf : f x.1 x.2 with
        | none => simp_all [of]
        | some y => simp_all [of]
      · cases hf : f x.1 x.2 with
        | none => simp_all [of]
        | some y => simp_all [of]

theorem count_of [DecidableEq α] (book : Ledger α) (j : Nat) (x : α) :
    book.count (j, x) = (of book j).count x := by
  induction book with
  | nil => rfl
  | cons e book ih =>
      obtain ⟨k, y⟩ := e
      rw [List.count_cons, ih]
      by_cases hk : k = j
      · subst hk
        have hpair : ((k, y) == (k, x)) = (y == x) := by
          rw [Bool.eq_iff_iff]
          simp
        simp [of, List.count_cons, hpair]
      · simp [of, hk]

theorem count_fst (book : Ledger α) (j : Nat) : (book.map Prod.fst).count j = (of book j).length := by
  rw [List.count, List.countP_map, List.countP_eq_length_filter, of, List.length_map]
  congr 2

/-- Ledgers in which everyone has the same entries hold the same entries. -/
theorem perm_of_of_eq (h : ∀ j, of book j = of other j) : book.Perm other := by
  classical
  rw [List.perm_iff_count]
  rintro ⟨j, x⟩
  rw [count_of, count_of, h j]

end Ledger

end Switchyard
