/-
Cutting lists of characters at a separator.

`splitOnce` cuts at the first separator, `splitAll` at every one, and `joinWith` puts the pieces of
`splitAll` back together.  The equations beside the definitions say that nothing is lost.
-/
namespace Switchyard.Text

/-! ## The first separator -/

/-- The elements before and after the first `sep`; nothing when there is none. -/
def splitOnce {α : Type} [DecidableEq α] (sep : α) : List α → Option (List α × List α)
  | [] => none
  | x :: xs => if x = sep then some ([], xs) else (splitOnce sep xs).map fun p => (x :: p.1, p.2)

/-- A cut gives back its input around the separator, and the first part is free of it. -/
theorem eq_append_of_splitOnce {α : Type} [DecidableEq α] {sep : α} {xs a b : List α}
    (h : splitOnce sep xs = some (a, b)) : xs = a ++ sep :: b ∧ sep ∉ a := by
  induction xs generalizing a b with
  | nil => simp [splitOnce] at h
  | cons x xs ih =>
      by_cases hx : x = sep
      · simp [splitOnce, hx] at h
        obtain ⟨rfl, rfl⟩ := h
        simp [hx]
      · simp only [splitOnce, hx, if_false, Option.map_eq_some_iff, Prod.mk.injEq] at h
        obtain ⟨⟨a', b'⟩, hp, rfl, rfl⟩ := h
        obtain ⟨hxs, hn⟩ := ih hp
        refine ⟨by simp [hxs], ?_⟩
        simp only [List.mem_cons, not_or]
        exact ⟨fun he => hx he.symm, hn⟩

/-- Cutting at a separator that the first part does not hold finds that cut. -/
theorem splitOnce_append {α : Type} [DecidableEq α] {sep : α} {a : List α} (b : List α)
    (h : sep ∉ a) : splitOnce sep (a ++ sep :: b) = some (a, b) := by
  induction a with
  | nil => simp [splitOnce]
  | cons x a ih =>
      simp only [List.mem_cons, not_or] at h
      have hx : ¬x = sep := fun he => h.1 he.symm
      simp [splitOnce, hx, ih h.2]

/-- There is no cut exactly when the separator does not occur. -/
theorem splitOnce_eq_none_iff {α : Type} [DecidableEq α] {sep : α} {xs : List α} :
    splitOnce sep xs = none ↔ sep ∉ xs := by
  induction xs with
  | nil => simp [splitOnce]
  | cons x xs ih =>
      by_cases hx : x = sep
      · simp [splitOnce, hx]
      · have hx' : ¬sep = x := fun he => hx he.symm
        simp [splitOnce, hx, hx', ih]

/-! ## Every separator -/

/-- The pieces between separators; there is always at least one piece. -/
def splitAll {α : Type} [DecidableEq α] (sep : α) : List α → List (List α)
  | [] => [[]]
  | x :: xs =>
    if x = sep then [] :: splitAll sep xs
    else match splitAll sep xs with
      | [] => [[x]]
      | piece :: pieces => (x :: piece) :: pieces

/-- The pieces with one separator between neighbours. -/
def joinWith {α : Type} (sep : α) : List (List α) → List α
  | [] => []
  | [piece] => piece
  | piece :: pieces => piece ++ sep :: joinWith sep pieces

theorem splitAll_ne_nil {α : Type} [DecidableEq α] (sep : α) (xs : List α) :
    splitAll sep xs ≠ [] := by
  cases xs with
  | nil => simp [splitAll]
  | cons x xs =>
      by_cases hx : x = sep
      · simp [splitAll, hx]
      · simp only [splitAll, hx, if_false]
        split <;> simp

/-- Joining the pieces gives back what was split. -/
theorem joinWith_splitAll {α : Type} [DecidableEq α] (sep : α) (xs : List α) :
    joinWith sep (splitAll sep xs) = xs := by
  induction xs with
  | nil => rfl
  | cons x xs ih =>
      by_cases hx : x = sep
      · have hne := splitAll_ne_nil sep xs
        cases hs : splitAll sep xs with
        | nil => exact absurd hs hne
        | cons p ps => simp [splitAll, hx, hs, joinWith, hs ▸ ih]
      · have hne := splitAll_ne_nil sep xs
        cases hs : splitAll sep xs with
        | nil => exact absurd hs hne
        | cons p ps =>
            rw [hs] at ih
            cases ps with
            | nil => simp [splitAll, hx, hs, joinWith] at ih ⊢; exact ih
            | cons q qs => simp [splitAll, hx, hs, joinWith] at ih ⊢; exact ih

theorem splitAll_of_notMem {α : Type} [DecidableEq α] {sep : α} {xs : List α} (h : sep ∉ xs) :
    splitAll sep xs = [xs] := by
  induction xs with
  | nil => rfl
  | cons x xs ih =>
      simp only [List.mem_cons, not_or] at h
      have hx : ¬x = sep := fun he => h.1 he.symm
      simp [splitAll, hx, ih h.2]

/-- The pieces on both sides of a separator. -/
theorem splitAll_append_cons {α : Type} [DecidableEq α] (sep : α) (xs ys : List α) :
    splitAll sep (xs ++ sep :: ys) = splitAll sep xs ++ splitAll sep ys := by
  induction xs with
  | nil => simp [splitAll]
  | cons x xs ih =>
      by_cases hx : x = sep
      · simp [splitAll, hx, ih]
      · have hne := splitAll_ne_nil sep xs
        cases hs : splitAll sep xs with
        | nil => exact absurd hs hne
        | cons p ps =>
            rw [hs] at ih
            simp [splitAll, hx, hs, ih]

/-- Lists joined with a separator are split where each of them is. -/
theorem splitAll_intercalate {α : Type} [DecidableEq α] (sep : α) {xss : List (List α)} (h : xss ≠ []) :
    splitAll sep ([sep].intercalate xss) = xss.flatMap (splitAll sep) := by
  induction xss with
  | nil => exact absurd rfl h
  | cons xs xss ih =>
    cases xss with
    | nil => simp
    | cons ys yss =>
      rw [List.intercalate_cons_cons, List.append_assoc, List.singleton_append, splitAll_append_cons,
        ih (List.cons_ne_nil ys yss)]
      rfl

/-- A text is cut in one way only at a separator that neither first part holds. -/
theorem append_cons_inj {α : Type} [DecidableEq α] {sep : α} {a b xs ys : List α} (ha : sep ∉ a)
    (hb : sep ∉ b) (h : a ++ sep :: xs = b ++ sep :: ys) : a = b ∧ xs = ys := by
  have hcut := splitOnce_append xs ha
  rw [h, splitOnce_append ys hb, Option.some.injEq, Prod.mk.injEq] at hcut
  exact ⟨hcut.1.symm, hcut.2.symm⟩

/-! ## Ends -/

/-- The text without the characters of a class at either end. -/
def trim (p : Char → Bool) (cs : List Char) : List Char :=
  ((cs.dropWhile p).reverse.dropWhile p).reverse

/-- Dropping from the front leaves the text from its first character outside the class on. -/
theorem dropWhile_eq_iff {p : Char → Bool} {cs t : List Char} (ht : t ≠ []) :
    cs.dropWhile p = t ↔ ∃ front, cs = front ++ t ∧ (∀ c ∈ front, p c = true) ∧
      ∀ c, t.head? = some c → p c = false := by
  constructor
  · rintro rfl
    refine ⟨cs.takeWhile p, List.takeWhile_append_dropWhile.symm, ?_, ?_⟩
    · exact fun c hc => List.all_eq_true.1 List.all_takeWhile c hc
    · intro c hc
      have hhead := List.head?_dropWhile_not p cs
      rwa [hc] at hhead
  · rintro ⟨front, rfl, hfront, hhead⟩
    obtain ⟨c, t, rfl⟩ := List.exists_cons_of_ne_nil ht
    rw [List.dropWhile_append_of_pos hfront, List.dropWhile_cons_of_neg]
    exact Bool.eq_false_iff.1 (hhead c rfl)

/-- What is left stands between characters of the class, and neither starts nor ends with one. -/
theorem trim_eq_iff {p : Char → Bool} {cs t : List Char} (ht : t ≠ []) :
    trim p cs = t ↔ ∃ front back, cs = front ++ (t ++ back) ∧ (∀ c ∈ front, p c = true) ∧
      (∀ c ∈ back, p c = true) ∧ (∀ c, t.head? = some c → p c = false) ∧
      ∀ c, t.getLast? = some c → p c = false := by
  have hne : t.reverse ≠ [] := List.reverse_ne_nil_iff.2 ht
  rw [trim, List.reverse_eq_iff, dropWhile_eq_iff hne]
  constructor
  · rintro ⟨back, hback, hblank, hlast⟩
    have hrest : cs.dropWhile p = t ++ back.reverse := by
      rw [List.reverse_eq_iff] at hback
      simpa using hback
    obtain ⟨front, rfl, hfront, hhead⟩ := (dropWhile_eq_iff (by simp [ht])).1 hrest
    refine ⟨front, back.reverse, rfl, hfront, by simpa using hblank, fun c hc => hhead c ?_, ?_⟩
    · rw [List.head?_append, hc]
      rfl
    · simpa [List.head?_reverse] using hlast
  · rintro ⟨front, back, rfl, hfront, hback, hhead, hlast⟩
    have hrest : (front ++ (t ++ back)).dropWhile p = t ++ back := by
      refine (dropWhile_eq_iff (by simp [ht])).2 ⟨front, rfl, hfront, fun c hc => hhead c ?_⟩
      rwa [List.head?_append, Option.or_of_isSome (List.isSome_head?.2 ht)] at hc
    refine ⟨back.reverse, by rw [hrest, List.reverse_append], by simpa using hback, ?_⟩
    simpa [List.head?_reverse] using hlast

/-- What follows a given start; nothing when the text starts otherwise. -/
def after? : List Char → List Char → Option (List Char)
  | [], cs => some cs
  | _ :: _, [] => none
  | p :: ps, c :: cs => if p = c then after? ps cs else none

end Switchyard.Text
