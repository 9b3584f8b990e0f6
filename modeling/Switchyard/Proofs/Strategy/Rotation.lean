/-
Taking turns.

`turns n start m` are the remainders of `m` numbers in a row, and no remainder occurs more than once more
often than another (`isBalanced_turns`).  The picks of a rotating strategy are such turns until its cursor
starts over (`picks_eq_turns`), and it takes at least 2⁶⁴ picks to get there (`toNat_cursorAfter_le`).
-/
import Mathlib.Algebra.Order.Floor.Div
import Switchyard.Strategy

namespace Switchyard

/-! ## Balance -/

/-- Of the first `n` numbers each occurs as often as the length of the list, divided by `n`, says, rounded
up or down; and no other number occurs. -/
def IsBalanced (n : Nat) (is : List Nat) : Prop :=
  (∀ i ∈ is, i < n) ∧ ∀ i < n, is.count i = is.length / n ∨ is.count i = is.length ⌈/⌉ n

/-- No two counts of a balanced list are further apart than by one. -/
theorem IsBalanced.count_le {n : Nat} {is : List Nat} (h : IsBalanced n is) {i j : Nat} (hi : i < n)
    (hj : j < n) : is.count i ≤ is.count j + 1 := by
  have hpos : 0 < n := by omega
  have hup : is.length ⌈/⌉ n ≤ is.length / n + 1 := by
    rw [Nat.ceilDiv_eq_add_pred_div]
    have hsum : is.length + n - 1 < is.length + n := by omega
    calc (is.length + n - 1) / n ≤ (is.length + n) / n := Nat.div_le_div_right hsum.le
      _ = is.length / n + 1 := Nat.add_div_right _ hpos
  have hdown : is.length / n ≤ is.length ⌈/⌉ n := by
    rw [Nat.ceilDiv_eq_add_pred_div]
    exact Nat.div_le_div_right (by omega)
  rcases h.2 i hi with hi | hi <;> rcases h.2 j hj with hj | hj <;> omega

/-- The remainders of numbers in a row. -/
def turns (n start m : Nat) : List Nat := (List.range' start m).map (· % n)

section Turns

variable {n i : Nat} (hi : i < n) (start m : Nat)

@[simp] theorem length_turns (n : Nat) : (turns n start m).length = m := by
  simp [turns]

theorem turns_succ (n : Nat) : turns n start (m + 1) = turns n start m ++ [(start + m) % n] := by
  rw [turns, List.range'_1_concat, List.map_append]
  rfl

include hi in
/-- Shifted to the end of its round, exactly a number with remainder `i` completes the round. -/
theorem dvd_shifted_iff (a : Nat) : n ∣ a + (n - 1 - i) + 1 ↔ a % n = i := by
  have hmod : a % n < n := Nat.mod_lt _ (by omega)
  have hsplit : a + (n - 1 - i) + 1 = n * (a / n) + (a % n + (n - i)) := by
    have ha := Nat.div_add_mod a n
    omega
  rw [hsplit, Nat.dvd_add_right (Nat.dvd_mul_right _ _)]
  -- what is left lies strictly between zero and twice `n`, so it is a multiple only if it is `n`
  constructor
  · rintro ⟨c, hc⟩
    have hlt : c < 2 := Nat.lt_of_mul_lt_mul_left (a := n) (by omega)
    have hgt : 0 < c := Nat.lt_of_mul_lt_mul_left (a := n) (by omega)
    obtain rfl : c = 1 := by omega
    omega
  · intro heq
    exact ⟨1, by omega⟩

include hi in
theorem div_succ_shifted (a : Nat) :
    (a + (n - 1 - i) + 1) / n = (a + (n - 1 - i)) / n + if a % n = i then 1 else 0 := by
  rw [Nat.succ_div]
  simp only [dvd_shifted_iff hi]

include hi in
/-- How often a remainder occurs is how much the quotient grows. -/
theorem count_turns_add :
    (turns n start m).count i + (start + (n - 1 - i)) / n = (start + m + (n - 1 - i)) / n := by
  induction m with
  | zero => simp [turns]
  | succ m ih =>
    have hshift : start + (m + 1) + (n - 1 - i) = start + m + (n - 1 - i) + 1 := by omega
    rw [turns_succ, List.count_append, List.count_singleton, hshift, div_succ_shifted hi]
    simp only [beq_iff_eq]
    omega

end Turns

theorem isBalanced_turns {n : Nat} (hn : 0 < n) (start m : Nat) : IsBalanced n (turns n start m) := by
  constructor
  · intro i hi
    obtain ⟨a, -, rfl⟩ := List.mem_map.1 hi
    exact Nat.mod_lt _ hn
  · intro i hi
    have hcount := count_turns_add hi start m
    have hshift : start + m + (n - 1 - i) = start + (n - 1 - i) + m := by omega
    have hgrow : (start + (n - 1 - i) + m) / n = (start + (n - 1 - i)) / n + m / n +
        if n ≤ (start + (n - 1 - i)) % n + m % n then 1 else 0 := Nat.add_div hn
    rw [hshift, hgrow] at hcount
    rw [length_turns, Nat.ceilDiv_eq_add_pred_div]
    have hrest : m % n < n := Nat.mod_lt _ hn
    by_cases hcarry : n ≤ (start + (n - 1 - i)) % n + m % n
    · -- the rest of the last round reaches this remainder, and there is one
      right
      have hstart : (start + (n - 1 - i)) % n < n := Nat.mod_lt _ hn
      have hup : (m + n - 1) / n = m / n + 1 := by
        have hm := Nat.div_add_mod m n
        have hsplit : m + n - 1 = (m % n - 1) + n * (m / n + 1) := by
          rw [Nat.mul_add]
          omega
        rw [hsplit, Nat.add_mul_div_left _ _ hn, Nat.div_eq_of_lt (by omega), Nat.zero_add]
      rw [if_pos hcarry] at hcount
      omega
    · left
      rw [if_neg hcarry] at hcount
      omega

/-! ## Cursors -/

namespace Strategy

/-- The cursor after some picks, each from a selection of its own. -/
def cursorAfter (s : Strategy) (history : List (List Endpoint)) (cursor : Cursor) : Cursor :=
  history.foldl (fun cursor selection => (s.next selection cursor).2) cursor

/-- A strategy that counts its picks counts one further, or leaves the cursor alone. -/
theorem next_snd_cases {s : Strategy} (hs : s ≠ random) (selection : List Endpoint) (cursor : Cursor) :
    (s.next selection cursor).2 = cursor ∨ (s.next selection cursor).2 = cursor.turned := by
  cases s with
  | random => exact absurd rfl hs
  | roundRobin =>
    rw [next]
    split
    · exact Or.inl rfl
    · exact Or.inr rfl
  | minimumHistory minSamples bestK =>
    rw [next]
    split
    · exact Or.inl rfl
    · exact Or.inr rfl

theorem toNat_turned_le (cursor : Cursor) : cursor.turned.turns.toNat ≤ cursor.turns.toNat + 1 := by
  rw [Cursor.turned, UInt64.toNat_add]
  exact Nat.mod_le _ _

theorem toNat_turned {cursor : Cursor} (h : cursor.turns.toNat + 1 < UInt64.size) :
    cursor.turned.turns.toNat = cursor.turns.toNat + 1 := by
  rw [Cursor.turned, UInt64.toNat_add]
  exact Nat.mod_eq_of_lt h

/-- However the picks went, the cursor has not come further than there were picks. -/
theorem toNat_cursorAfter_le {s : Strategy} (hs : s ≠ random) (history : List (List Endpoint))
    (cursor : Cursor) :
    (s.cursorAfter history cursor).turns.toNat ≤ cursor.turns.toNat + history.length := by
  induction history generalizing cursor with
  | nil => exact Nat.le_refl _
  | cons selection history ih =>
    have hrest := ih (s.next selection cursor).2
    have hone : (s.next selection cursor).2.turns.toNat ≤ cursor.turns.toNat + 1 := by
      rcases next_snd_cases hs selection cursor with hsame | hnext
      · rw [hsame]
        exact Nat.le_succ _
      · rw [hnext]
        exact toNat_turned_le cursor
    rw [List.length_cons]
    show (s.cursorAfter history (s.next selection cursor).2).turns.toNat ≤ _
    omega

theorem toNat_cursorAfter_of_fresh {s : Strategy} (hs : s ≠ random) (history : List (List Endpoint))
    {start : Cursor} (hstart : start.turns = 0) :
    (s.cursorAfter history start).turns.toNat ≤ history.length := by
  have hle := toNat_cursorAfter_le hs history start
  rwa [hstart, UInt64.toNat_zero, Nat.zero_add] at hle

/-! ## Picks in a row -/

variable {s : Strategy} {selection : List Endpoint} {n : Nat}

/-- Until the cursor starts over, picks that rotate are turns. -/
theorem picks_eq_turns (hrotate : ∀ cursor, s.next selection cursor = rotate cursor n) (m : Nat)
    {cursor : Cursor} (hfew : cursor.turns.toNat + m ≤ UInt64.size) :
    (s.picks selection m cursor).1 = turns n cursor.turns.toNat m := by
  induction m generalizing cursor with
  | zero => rfl
  | succ m ih =>
    have hhead : (s.picks selection (m + 1) cursor).1 =
        cursor.turns.toNat % n :: (s.picks selection m cursor.turned).1 := by
      rw [picks, hrotate cursor]
      rfl
    have htail : turns n cursor.turns.toNat (m + 1) =
        cursor.turns.toNat % n :: turns n (cursor.turns.toNat + 1) m := by
      rw [turns, List.range'_succ]
      rfl
    rw [hhead, htail]
    cases m with
    | zero => rfl -- the cursor may start over after the last pick
    | succ m =>
      have hnext : cursor.turned.turns.toNat = cursor.turns.toNat + 1 := toNat_turned (by omega)
      rw [ih (by omega), hnext]

/-- Picks that rotate are balanced until the cursor starts over. -/
theorem isBalanced_picks (hrotate : ∀ cursor, s.next selection cursor = rotate cursor n) (hn : 0 < n)
    (m : Nat) {cursor : Cursor} (hfew : cursor.turns.toNat + m ≤ UInt64.size) :
    IsBalanced n (s.picks selection m cursor).1 := by
  rw [picks_eq_turns hrotate m hfew]
  exact isBalanced_turns hn cursor.turns.toNat m

/-- As many indices are picked as were asked for. -/
@[simp] theorem length_picks (s : Strategy) (selection : List Endpoint) (m : Nat) (cursor : Cursor) :
    (s.picks selection m cursor).1.length = m := by
  induction m generalizing cursor with
  | zero => rfl
  | succ m ih =>
    rw [picks]
    exact congrArg (· + 1) (ih _)

/-- Round robin rotates through the whole selection. -/
theorem next_roundRobin (hne : selection ≠ []) (cursor : Cursor) :
    roundRobin.next selection cursor = rotate cursor selection.length := by
  rw [next, List.isEmpty_eq_false_iff.2 hne]
  rfl

/-- However round robin was used before, its picks are balanced until the cursor starts over. -/
theorem isBalanced_picks_roundRobin (hne : selection ≠ []) {history : List (List Endpoint)} {m : Nat}
    {start : Cursor} (hstart : start.turns = 0) (hfew : history.length + m ≤ UInt64.size) :
    IsBalanced selection.length
      (roundRobin.picks selection m (roundRobin.cursorAfter history start)).1 := by
  have hcursor := toNat_cursorAfter_of_fresh (s := roundRobin) nofun history hstart
  exact isBalanced_picks (next_roundRobin hne) (List.length_pos_iff.2 hne) m (by omega)

end Strategy

end Switchyard
