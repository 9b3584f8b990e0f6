/-
Stable sorting.

`IsStableSort` says what it is for a list to be another one stably sorted, and not how it is made.  Merge
sort makes one (`isStableSort_mergeSort`), and there is no other (`IsStableSort.unique`).
-/
namespace Switchyard

variable {α : Type} {le : α → α → Bool} {xs ys zs : List α}

/-- The order does not tell two elements apart. -/
def areTied (le : α → α → Bool) (a b : α) : Bool := le a b && le b a

/-- The same elements, sorted, and those that the order does not tell apart are as they were. -/
structure IsStableSort (le : α → α → Bool) (xs ys : List α) : Prop where
  perm : ys.Perm xs
  sorted : ys.Pairwise fun a b => le a b = true
  stable : ∀ a ∈ xs, ys.filter (areTied le a) = xs.filter (areTied le a)

instance [DecidableEq α] (le : α → α → Bool) (xs ys : List α) : Decidable (IsStableSort le xs ys) :=
  decidable_of_iff (ys.Perm xs ∧ ys.Pairwise (fun a b => le a b = true) ∧
      ∀ a ∈ xs, ys.filter (areTied le a) = xs.filter (areTied le a))
    ⟨fun h => ⟨h.1, h.2.1, h.2.2⟩, fun h => ⟨h.perm, h.sorted, h.stable⟩⟩

section Total

variable (htrans : ∀ a b c, le a b = true → le b c = true → le a c = true)
  (htotal : ∀ a b, (le a b || le b a) = true)

include htrans htotal in
theorem isStableSort_mergeSort (xs : List α) : IsStableSort le xs (xs.mergeSort le) := by
  refine ⟨List.mergeSort_perm xs le, List.pairwise_mergeSort htrans htotal xs, ?_⟩
  intro a _
  -- the elements tied with one are in order as they are, so sorting leaves them in their order
  have htied : (xs.filter (areTied le a)).Pairwise fun b c => le b c = true := by
    apply List.pairwise_of_forall_mem_list
    intro b hb c hc
    have hab := (List.mem_filter.1 hb).2
    have hac := (List.mem_filter.1 hc).2
    rw [areTied, Bool.and_eq_true] at hab hac
    exact htrans b a c hab.2 hac.1
  have hsub : (xs.filter (areTied le a)).Sublist ((xs.mergeSort le).filter (areTied le a)) := by
    have hwhole := List.sublist_mergeSort htrans htotal htied List.filter_sublist
    simpa using hwhole.filter (areTied le a)
  have hlength : ((xs.mergeSort le).filter (areTied le a)).length = (xs.filter (areTied le a)).length :=
    ((List.mergeSort_perm xs le).filter _).length_eq
  exact (hsub.eq_of_length_le (Nat.le_of_eq hlength)).symm

include htotal in
/-- The first of two sorted rearrangements of one another are tied. -/
theorem areTied_of_perm_cons {y z : α} (hperm : (y :: ys).Perm (z :: zs))
    (hys : (y :: ys).Pairwise fun a b => le a b = true)
    (hzs : (z :: zs).Pairwise fun a b => le a b = true) : areTied le y z = true := by
  have hrefl : ∀ a, le a a = true := fun a => by simpa using htotal a a
  have hle : ∀ {x : α} {l : List α} {b : α}, (x :: l).Pairwise (fun a b => le a b = true) →
      b ∈ x :: l → le x b = true := by
    intro x l b hl hb
    rcases List.mem_cons.1 hb with rfl | hb
    · exact hrefl b
    · exact List.rel_of_pairwise_cons hl hb
  have hyz : le y z = true := hle hys (hperm.mem_iff.2 List.mem_cons_self)
  have hzy : le z y = true := hle hzs (hperm.mem_iff.1 List.mem_cons_self)
  rw [areTied, hyz, hzy]
  rfl

include htotal in
/-- Sorted rearrangements of one another are equal if they agree on what is tied. -/
theorem eq_of_perm_of_sorted (hperm : ys.Perm zs) (hys : ys.Pairwise fun a b => le a b = true)
    (hzs : zs.Pairwise fun a b => le a b = true)
    (hties : ∀ a ∈ ys, ys.filter (areTied le a) = zs.filter (areTied le a)) : ys = zs := by
  induction ys generalizing zs with
  | nil => exact hperm.nil_eq
  | cons y ys ih =>
    cases zs with
    | nil => exact hperm.eq_nil
    | cons z zs =>
      have hrefl : areTied le y y = true := by simpa [areTied] using htotal y y
      have htied := areTied_of_perm_cons htotal hperm hys hzs
      -- both are the first of those that are tied with the one in front
      have hfirst := hties y List.mem_cons_self
      rw [List.filter_cons_of_pos hrefl, List.filter_cons_of_pos htied] at hfirst
      obtain rfl : y = z := (List.cons.inj hfirst).1
      have hrest : ys = zs := by
        apply ih (List.Perm.cons_inv hperm) (List.Pairwise.of_cons hys) (List.Pairwise.of_cons hzs)
        intro a ha
        have hboth := hties a (List.mem_cons_of_mem y ha)
        by_cases hay : areTied le a y = true
        · rw [List.filter_cons_of_pos hay, List.filter_cons_of_pos hay] at hboth
          exact (List.cons.inj hboth).2
        · rwa [List.filter_cons_of_neg hay, List.filter_cons_of_neg hay] at hboth
      rw [hrest]

include htotal in
/-- A list can be stably sorted in one way only. -/
theorem IsStableSort.unique (hy : IsStableSort le xs ys) (hz : IsStableSort le xs zs) : ys = zs := by
  apply eq_of_perm_of_sorted htotal (hy.perm.trans hz.perm.symm) hy.sorted hz.sorted
  intro a ha
  have hmem : a ∈ xs := hy.perm.mem_iff.1 ha
  rw [hy.stable a hmem, hz.stable a hmem]

end Total

end Switchyard
