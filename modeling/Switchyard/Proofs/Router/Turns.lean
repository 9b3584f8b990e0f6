/-
One gate, and everyone who enters it.

A `Hall` is a gate together with a place for each entry, in the order of entering.  A place holds the
turn, has given it back, waits, or is left; places are not used again, so that the turns given back so far
are the places that say so.

`step_cases` says everything that one move can do.  `IsKept` ties the gate to the places: the turn is held
exactly if one place holds it, and both numbers of the gate count the turns that were given back.  `Meets`
ties a waiter to the turn that it met, and no move unties them.
-/
import Mathlib.Data.List.Induction
import Switchyard.Router.Gate

namespace Switchyard.Gate

/-! ## Moves -/

/-- What has become of an entry. -/
inductive Place where
  | holding
  | returned
  | waiting (target : Nat)
  | left
deriving DecidableEq

def Entry.place : Entry → Place
  | writer => .holding
  | waiter target => .waiting target

/-- How a turn or a wait comes to its end: its holder is done, is cancelled, or fails and unwinds. -/
inductive Exit where
  | done
  | cancelled
  | unwound

/-- A gate and the places of all who have entered it, the latest last. -/
structure Hall where
  gate : Gate := {}
  places : List Place := []

namespace Hall

inductive Move where
  | enter
  /-- Whoever has the place lets go of it. -/
  | drop (i : Nat) (exit : Exit)
  /-- Whoever waits at the place is asked whether the wait is over. -/
  | poll (i : Nat)

/-- What a poll finds, if somebody waits at the place. -/
def poll (h : Hall) (i : Nat) : Option Bool :=
  match h.places[i]? with
  | some (.waiting target) => some (h.gate.isReady target)
  | _ => none

/-- However a turn is let go of, it is given back; a wait that is let go of or over is merely left. -/
def step (h : Hall) : Move → Hall
  | .enter => ⟨h.gate.enter.2, h.places ++ [h.gate.enter.1.place]⟩
  | .drop i _ =>
    match h.places[i]? with
    | some .holding => ⟨h.gate.release, h.places.set i .returned⟩
    | some (.waiting _) => ⟨h.gate, h.places.set i .left⟩
    | _ => h
  | .poll i => if h.poll i = some true then ⟨h.gate, h.places.set i .left⟩ else h

/-- The hall after some moves in a row. -/
def run (h : Hall) (moves : List Move) : Hall := moves.foldl step h

/-- The hall after some moves in a row, with nobody having entered before them. -/
def after (moves : List Move) : Hall := run {} moves

variable {h : Hall} {m : Move} {i holder target : Nat}

theorem run_snoc (moves : List Move) (m : Move) : h.run (moves ++ [m]) = (h.run moves).step m :=
  List.foldl_append

theorem run_append (before later : List Move) :
    h.run (before ++ later) = (h.run before).run later := List.foldl_append

/-- What a poll finds is for the place to say. -/
theorem poll_eq_some_iff {ready : Bool} :
    h.poll i = some ready ↔
      ∃ target, h.places[i]? = some (.waiting target) ∧ h.gate.isReady target = ready := by
  rw [poll]
  split
  · rename_i target hplace
    simp [hplace]
  · rename_i hplace
    constructor
    · intro hnone
      cases hnone
    · rintro ⟨target, hwaiting, -⟩
      exact absurd hwaiting (hplace target)

/-- A move takes the turn of a free gate, takes a place to wait at for the turn that is held, gives the
turn back, leaves a wait that is given up or over, or does nothing at all. -/
theorem step_cases (h : Hall) (m : Move) :
    (m = .enter ∧ h.gate.held = false ∧
      h.step m = ⟨{ h.gate with held := true }, h.places ++ [.holding]⟩) ∨
    (m = .enter ∧ h.gate.held = true ∧
      h.step m = ⟨h.gate, h.places ++ [.waiting (h.gate.generation + 1)]⟩) ∨
    (∃ i exit, m = .drop i exit ∧ h.places[i]? = some .holding ∧
      h.step m = ⟨h.gate.release, h.places.set i .returned⟩) ∨
    (∃ i target, ((∃ exit, m = .drop i exit) ∨ m = .poll i ∧ h.poll i = some true) ∧
      h.places[i]? = some (.waiting target) ∧ h.step m = ⟨h.gate, h.places.set i .left⟩) ∨
    h.step m = h := by
  cases m with
  | enter =>
    cases hheld : h.gate.held with
    | false => exact Or.inl ⟨rfl, rfl, by rw [step, enter_of_free hheld]; rfl⟩
    | true => exact Or.inr (Or.inl ⟨rfl, rfl, by rw [step, enter_of_held hheld]; rfl⟩)
  | drop i exit =>
    right; right
    rw [step]
    split
    · rename_i hplace
      exact Or.inl ⟨i, exit, rfl, hplace, rfl⟩
    · rename_i target hplace
      exact Or.inr (Or.inl ⟨i, target, Or.inl ⟨exit, rfl⟩, hplace, rfl⟩)
    · exact Or.inr (Or.inr rfl)
  | poll i =>
    right; right; right
    by_cases hready : h.poll i = some true
    · obtain ⟨target, hplace, -⟩ := poll_eq_some_iff.1 hready
      exact Or.inl ⟨i, target, Or.inr ⟨rfl, hready⟩, hplace, by rw [step, if_pos hready]⟩
    · exact Or.inr (by rw [step, if_neg hready])

/-- A place stays as it is, except that the turn is given back from it, or that a wait there is dropped or
found to be over. -/
theorem place_step {p : Place} (hplace : h.places[i]? = some p) (m : Move) :
    (h.step m).places[i]? = some p ∨
    (p = .holding ∧ (h.step m).places[i]? = some .returned) ∨
    (∃ target, p = .waiting target ∧ (h.step m).places[i]? = some .left ∧
      ((∃ exit, m = .drop i exit) ∨ m = .poll i ∧ h.poll i = some true)) := by
  have hlt := (List.getElem?_eq_some_iff.1 hplace).1
  rcases h.step_cases m with
    ⟨-, -, hstep⟩ | ⟨-, -, hstep⟩ | ⟨j, -, -, hholder, hstep⟩ | ⟨j, target, hmove, hwaiter, hstep⟩ |
    hstep
  · rw [hstep, List.getElem?_append_left hlt]
    exact Or.inl hplace
  · rw [hstep, List.getElem?_append_left hlt]
    exact Or.inl hplace
  · rw [hstep]
    by_cases hj : j = i
    · subst hj
      rw [hplace] at hholder
      exact Or.inr (Or.inl ⟨Option.some.inj hholder, List.getElem?_set_self hlt⟩)
    · exact Or.inl ((List.getElem?_set_ne hj).trans hplace)
  · rw [hstep]
    by_cases hj : j = i
    · subst hj
      rw [hplace] at hwaiter
      exact Or.inr (Or.inr ⟨target, Option.some.inj hwaiter, List.getElem?_set_self hlt, hmove⟩)
    · exact Or.inl ((List.getElem?_set_ne hj).trans hplace)
  · rw [hstep]
    exact Or.inl hplace

/-! ## The turn -/

/-- How many turns have been taken so far. -/
def turns (h : Hall) : Nat := h.places.count .holding + h.places.count .returned

/-- The gate agrees with the places of those who have entered it. -/
structure IsKept (h : Hall) : Prop where
  count_holding : h.places.count .holding = if h.gate.held then 1 else 0
  generation : h.gate.generation = h.places.count .returned
  announced : h.gate.announced = h.gate.generation
  target_le : ∀ target, .waiting target ∈ h.places → target ≤ h.turns

theorem isKept_default : IsKept {} := by
  refine ⟨rfl, rfl, rfl, ?_⟩
  intro target hmem
  cases hmem

theorem IsKept.held_iff (hk : h.IsKept) : h.gate.held = true ↔ .holding ∈ h.places := by
  rw [← List.count_pos_iff, hk.count_holding]
  cases h.gate.held <;> simp

/-- A place that changes counts as what it is now, and no more as what it was. -/
theorem count_set {places : List Place} {old : Place} (hplace : places[i]? = some old)
    (new p : Place) :
    (places.set i new).count p + (if old = p then 1 else 0) =
      places.count p + if new = p then 1 else 0 := by
  obtain ⟨hlt, rfl⟩ := List.getElem?_eq_some_iff.1 hplace
  rw [List.count_set hlt]
  by_cases hold : places[i] = p
  · have hpos : 0 < places.count p := List.count_pos_iff.2 (hold ▸ List.getElem_mem hlt)
    simp only [hold, beq_self_eq_true, if_true, beq_iff_eq]
    omega
  · simp [hold]

/-- No two places hold the turn. -/
theorem IsKept.eq_of_holding (hk : h.IsKept) {i j : Nat} (hi : h.places[i]? = some .holding)
    (hj : h.places[j]? = some .holding) : i = j := by
  refine Decidable.byContradiction fun hne => ?_
  -- without the one place nobody would hold the turn, but the other place still does
  have hmem : .holding ∈ h.places.set i .left := by
    rw [← List.getElem?_set_ne hne (a := .left)] at hj
    exact List.mem_of_getElem? hj
  have hone : h.places.count .holding ≤ 1 := by
    rw [hk.count_holding]
    split <;> omega
  have hrest := count_set hi .left .holding
  have hpos := List.count_pos_iff.2 hmem
  simp only [if_true, reduceCtorEq, if_false] at hrest
  omega

/-- Whoever moves, and however, the gate agrees with the places. -/
theorem IsKept.step (hk : h.IsKept) (m : Move) : (h.step m).IsKept := by
  have hturns : h.turns = (if h.gate.held then 1 else 0) + h.gate.generation := by
    rw [turns, hk.count_holding, hk.generation]
  rcases h.step_cases m with
    ⟨-, hfree, hstep⟩ | ⟨-, hheld, hstep⟩ | ⟨i, exit, -, hplace, hstep⟩ |
    ⟨i, target, -, hplace, hstep⟩ | hstep
  · -- one turn more has been taken
    rw [hstep]
    refine ⟨?_, ?_, hk.announced, ?_⟩
    · simp [hk.count_holding, hfree]
    · simp [hk.generation]
    · intro target hmem
      have hle := hk.target_le target (by simpa using hmem)
      simp only [turns, List.count_append] at hle ⊢
      omega
  · -- the new waiter is for the turn that is held
    rw [hstep]
    refine ⟨?_, ?_, hk.announced, ?_⟩
    · simp [hk.count_holding]
    · simp [hk.generation]
    · intro target hmem
      have hsame : turns ⟨h.gate, h.places ++ [.waiting (h.gate.generation + 1)]⟩ = h.turns := by
        simp [turns]
      rw [hsame]
      rcases List.mem_append.1 hmem with hmem | hmem
      · exact hk.target_le target hmem
      · rw [Place.waiting.inj (List.mem_singleton.1 hmem), hturns, hheld]
        simp [Nat.add_comm]
  · -- the turn is now one of those that were given back
    have hholding := count_set hplace .returned .holding
    have hreturned := count_set hplace .returned .returned
    have hheld : h.gate.held = true := hk.held_iff.2 (List.mem_of_getElem? hplace)
    have hcount := hk.count_holding
    simp only [hheld, if_true, reduceCtorEq, if_false] at hholding hreturned hcount
    rw [hstep]
    refine ⟨?_, ?_, rfl, ?_⟩
    · simp only [held_release, Bool.false_eq_true, if_false]
      omega
    · simp only [generation_release, hk.generation]
      omega
    · intro target hmem
      rcases List.mem_or_eq_of_mem_set hmem with hmem | hmem
      · have hle := hk.target_le target hmem
        simp only [turns] at hle ⊢
        omega
      · cases hmem
  · -- a wait that has been left counts for nothing
    have hholding := count_set hplace .left .holding
    have hreturned := count_set hplace .left .returned
    simp only [reduceCtorEq, if_false, Nat.add_zero] at hholding hreturned
    rw [hstep]
    refine ⟨?_, ?_, hk.announced, ?_⟩
    · exact hholding.trans hk.count_holding
    · exact hk.generation.trans hreturned.symm
    · intro other hmem
      rcases List.mem_or_eq_of_mem_set hmem with hmem | hmem
      · rw [turns, hholding, hreturned]
        exact hk.target_le other hmem
      · cases hmem
  · rw [hstep]
    exact hk

theorem IsKept.run (hk : h.IsKept) (moves : List Move) : (h.run moves).IsKept := by
  induction moves generalizing h with
  | nil => exact hk
  | cons m moves ih => exact ih (hk.step m)

/-! ## Waiting for a turn -/

/-- The target is that of the turn at the place, be it held or already given back. -/
def Meets (h : Hall) (holder target : Nat) : Prop :=
  (h.places[holder]? = some .holding ∧ target = h.gate.generation + 1) ∨
    (h.places[holder]? = some .returned ∧ target ≤ h.gate.generation)

/-- No move unties a waiter from the turn that it met, however many turns are taken later. -/
theorem Meets.step (hm : h.Meets holder target) (hk : h.IsKept) (m : Move) :
    (h.step m).Meets holder target := by
  have hlt : holder < h.places.length := by
    rcases hm with ⟨hplace, -⟩ | ⟨hplace, -⟩ <;> exact (List.getElem?_eq_some_iff.1 hplace).1
  rcases h.step_cases m with
    ⟨-, hfree, hstep⟩ | ⟨-, hheld, hstep⟩ | ⟨i, exit, -, hplace, hstep⟩ |
    ⟨i, other, -, hplace, hstep⟩ | hstep
  · rw [hstep, Meets, List.getElem?_append_left hlt]
    exact hm
  · rw [hstep, Meets, List.getElem?_append_left hlt]
    exact hm
  · rw [hstep]
    right
    rcases hm with ⟨hholder, rfl⟩ | ⟨hholder, hle⟩
    · -- it is the turn that was met that is given back, as nobody else holds one
      obtain rfl := hk.eq_of_holding hholder hplace
      exact ⟨List.getElem?_set_self hlt, Nat.le_refl _⟩
    · -- a later turn is given back
      have hne : i ≠ holder := by
        rintro rfl
        rw [hplace] at hholder
        cases hholder
      exact ⟨(List.getElem?_set_ne hne).trans hholder, Nat.le_succ_of_le hle⟩
  · -- whoever leaves a wait is not the holder of the turn
    have hne : i ≠ holder := by
      rintro rfl
      rcases hm with ⟨hholder, -⟩ | ⟨hholder, -⟩ <;> rw [hplace] at hholder <;> cases hholder
    rw [hstep, Meets, List.getElem?_set_ne hne]
    exact hm
  · rw [hstep]
    exact hm

theorem Meets.run (hm : h.Meets holder target) (hk : h.IsKept) (moves : List Move) :
    (h.run moves).Meets holder target := by
  induction moves generalizing h with
  | nil => exact hm
  | cons m moves ih => exact ih (hm.step hk m) (hk.step m)

/-- A wait is over exactly if the turn that was met has been given back. -/
theorem Meets.isReady_iff (hm : h.Meets holder target) (hk : h.IsKept) :
    h.gate.isReady target = true ↔ h.places[holder]? = some .returned := by
  rw [isReady, hk.announced, decide_eq_true_eq]
  rcases hm with ⟨hholder, rfl⟩ | ⟨hholder, hle⟩
  · rw [hholder]
    simp
  · exact iff_of_true hle hholder

/-- Whoever has come to wait does so for the same turn, until the wait is dropped or found to be over. -/
theorem waiting_run (hplace : h.places[i]? = some (.waiting target)) (moves : List Move) :
    (h.run moves).places[i]? = some (.waiting target) ∨
      ((h.run moves).places[i]? = some .left ∧ ((∃ exit, .drop i exit ∈ moves) ∨
        ∃ earlier later, moves = earlier ++ .poll i :: later ∧
          (h.run earlier).poll i = some true)) := by
  induction moves using List.reverseRecOn with
  | nil => exact Or.inl hplace
  | append_singleton moves m ih =>
    rw [run_snoc]
    rcases ih with hstill | ⟨hleft, hwhy⟩
    · rcases place_step hstill m with hnow | ⟨hholding, -⟩ | ⟨-, -, hnow, ⟨exit, rfl⟩ | ⟨rfl, hready⟩⟩
      · exact Or.inl hnow
      · cases hholding
      · exact Or.inr ⟨hnow, Or.inl ⟨exit, List.mem_append_right moves (List.mem_singleton_self _)⟩⟩
      · exact Or.inr ⟨hnow, Or.inr ⟨moves, [], rfl, hready⟩⟩
    · -- what has been left stays so
      right
      rcases place_step hleft m with hnow | ⟨hholding, -⟩ | ⟨other, hwaiting, -⟩
      · refine ⟨hnow, ?_⟩
        rcases hwhy with ⟨exit, hdrop⟩ | ⟨earlier, later, rfl, hready⟩
        · exact Or.inl ⟨exit, List.mem_append_left _ hdrop⟩
        · exact Or.inr ⟨earlier, later ++ [m], by rw [List.append_assoc]; rfl, hready⟩
      · cases hholding
      · cases hwaiting

/-- Whoever enters while a place holds the turn comes to wait for that very turn. -/
theorem waits_of_holding (hk : h.IsKept) (hholder : h.places[holder]? = some .holding) :
    (h.step .enter).places[h.places.length]? = some (.waiting (h.gate.generation + 1)) ∧
      (h.step .enter).Meets holder (h.gate.generation + 1) := by
  have hheld : h.gate.held = true := hk.held_iff.2 (List.mem_of_getElem? hholder)
  have hentered : h.step .enter = ⟨h.gate, h.places ++ [.waiting (h.gate.generation + 1)]⟩ := by
    rw [step, enter_of_held hheld]
    rfl
  rw [hentered]
  refine ⟨?_, Or.inl ⟨?_, rfl⟩⟩
  · rw [List.getElem?_append_right (Nat.le_refl _), Nat.sub_self]
    rfl
  · exact (List.getElem?_append_left (List.getElem?_eq_some_iff.1 hholder).1).trans hholder

/-- However late the newcomer is polled, it learns what has become of the turn that it met. -/
theorem ready_iff_returned (hk : h.IsKept) (hholder : h.places[holder]? = some .holding)
    (later : List Move) {ready : Bool}
    (hpoll : ((h.step .enter).run later).poll h.places.length = some ready) :
    ready = true ↔ ((h.step .enter).run later).places[holder]? = some .returned := by
  obtain ⟨hplace, hmeets⟩ := waits_of_holding hk hholder
  obtain ⟨target, hwaits, hready⟩ := poll_eq_some_iff.1 hpoll
  rcases waiting_run hplace later with hstill | ⟨hleft, -⟩
  · -- it still waits for the target that it came with
    rw [hstill] at hwaits
    rw [← hready, ← Place.waiting.inj (Option.some.inj hwaits)]
    exact (hmeets.run (hk.step .enter) later).isReady_iff ((hk.step .enter).run later)
  · rw [hleft] at hwaits
    cases hwaits

/-- The newcomer can be polled until its wait is dropped or was found to be over. -/
theorem dropped_or_over (hk : h.IsKept) (hholder : h.places[holder]? = some .holding)
    {later : List Move} (hpoll : ((h.step .enter).run later).poll h.places.length = none) :
    (∃ exit, .drop h.places.length exit ∈ later) ∨
      ∃ earlier rest, later = earlier ++ .poll h.places.length :: rest ∧
        ((h.step .enter).run earlier).poll h.places.length = some true := by
  rcases waiting_run (waits_of_holding hk hholder).1 later with hstill | ⟨-, hwhy⟩
  · rw [poll, hstill] at hpoll
    cases hpoll
  · exact hwhy

/-! ## All of it -/

/-- **Turns and waits.**  After any moves at one gate: at most one place holds the turn, and whoever enters
next becomes the writer exactly if none does.  Both numbers of the gate count the turns that were given
back, however they were.  A poll of a waiter finds the wait over exactly if the turn that was held when the
waiter came has been given back, whether it is polled before or after that and however many turns are taken
later; and whoever has come to wait can be polled until the wait is dropped or was found to be over.
Dropping a waiter changes neither the gate nor any other place.  While fewer than 2⁶⁴ turns have been taken,
no number is too large for 64 bits. -/
theorem turns_and_waits (moves : List Move) :
    ((after moves).gate.enter.1 = .writer ↔ Place.holding ∉ (after moves).places) ∧
    (∀ i j : Nat, (after moves).places[i]? = some Place.holding →
      (after moves).places[j]? = some Place.holding → i = j) ∧
    (after moves).gate.generation = (after moves).places.count .returned ∧
    (after moves).gate.announced = (after moves).gate.generation ∧
    (∀ before later (holder i : Nat), moves = before ++ .enter :: later →
      (after before).places[holder]? = some Place.holding → i = (after before).places.length →
      (∀ ready, (after moves).poll i = some ready →
        (ready = true ↔ (after moves).places[holder]? = some Place.returned)) ∧
      ((after moves).poll i = none → (∃ exit, .drop i exit ∈ later) ∨
        ∃ earlier rest, later = earlier ++ .poll i :: rest ∧
          (after (before ++ .enter :: earlier)).poll i = some true)) ∧
    (∀ (i : Nat) target exit, (after moves).places[i]? = some (Place.waiting target) →
      ((after moves).step (.drop i exit)).gate = (after moves).gate ∧
      ∀ j, j ≠ i → ((after moves).step (.drop i exit)).places[j]? = (after moves).places[j]?) ∧
    ((after moves).turns < UInt64.size → (after moves).gate.generation < UInt64.size ∧
      ∀ target, Place.waiting target ∈ (after moves).places → target < UInt64.size) := by
  have hk : (after moves).IsKept := isKept_default.run moves
  refine ⟨?_, fun i j => hk.eq_of_holding, hk.generation, hk.announced, ?_, ?_, ?_⟩
  · rw [← hk.held_iff, Bool.not_eq_true]
    cases hheld : (after moves).gate.held <;> simp [hheld]
  · rintro before later holder i rfl hholder rfl
    have hbefore : (after before).IsKept := isKept_default.run before
    have hafter : ∀ rest, after (before ++ .enter :: rest) = ((after before).step .enter).run rest :=
      fun rest => run_append before (.enter :: rest)
    simp only [hafter]
    exact ⟨fun ready => ready_iff_returned hbefore hholder later, dropped_or_over hbefore hholder⟩
  · intro i target exit hplace
    have hstep : (after moves).step (.drop i exit) =
        ⟨(after moves).gate, (after moves).places.set i .left⟩ := by
      rw [step, hplace]
    rw [hstep]
    exact ⟨rfl, fun j hj => List.getElem?_set_ne (Ne.symm hj)⟩
  · intro hfew
    refine ⟨?_, fun target hmem => Nat.lt_of_le_of_lt (hk.target_le target hmem) hfew⟩
    rw [hk.generation]
    exact Nat.lt_of_le_of_lt (Nat.le_add_left _ _) hfew

/-- Two callers meet the first turn, which ends by unwinding; a second turn is taken before either of them
is polled again, and one of them has left by then. -/
def crowd : List Move :=
  [.enter, .enter, .poll 1, .enter, .drop 2 .cancelled, .drop 0 .unwound, .enter]

/-- The one that stayed finds its wait over while the second turn is held, and not before the first one was
given back. -/
theorem turns_and_waits_crowd :
    (after crowd).places = [.returned, .waiting 1, .left, .holding] ∧
    (after crowd).gate.generation = 1 ∧ (after crowd).poll 1 = some true ∧
    (after (crowd.take 5)).poll 1 = some false := by
  have hplaces : (after crowd).places = [.returned, .waiting 1, .left, .holding] := by decide
  have hearlier : (after (crowd.take 5)).places = [.holding, .waiting 1, .left] := by decide
  obtain ⟨-, -, hgeneration, -, hwaits, -, -⟩ := turns_and_waits crowd
  obtain ⟨-, -, -, -, hwaited, -, -⟩ := turns_and_waits (crowd.take 5)
  refine ⟨hplaces, ?_, ?_, ?_⟩
  · rw [hgeneration, hplaces]
    decide
  · obtain ⟨hready, -⟩ := hwaits [.enter] (crowd.drop 2) 0 1 rfl rfl rfl
    rw [hplaces] at hready
    have hpoll : (after crowd).poll 1 = some ((after crowd).gate.isReady 1) := by
      rw [poll, hplaces]
      rfl
    rw [hpoll, (hready _ hpoll).2 rfl]
  · obtain ⟨hready, -⟩ := hwaited [.enter] ((crowd.take 5).drop 2) 0 1 rfl rfl rfl
    rw [hearlier] at hready
    have hpoll : (after (crowd.take 5)).poll 1 =
        some ((after (crowd.take 5)).gate.isReady 1) := by
      rw [poll, hearlier]
      rfl
    have hnot := mt (hready _ hpoll).1 (by simp)
    rw [hpoll, Bool.eq_false_iff.2 hnot]

end Hall

end Switchyard.Gate
