/-
Any number of refreshes and requests that share one router.

A `System` moves one step at a time: a step of some call, a step of some request, or the passage of
time.  A `Run` is any order of such steps, and its trace says what each of them did.  `applications` and
`completions` read off a trace which passes were published and which were made; `recordOf` reads off what
one request did.
-/
import Mathlib.Logic.Function.Basic
import Switchyard.Proofs.Concurrent.Call
import Switchyard.Proofs.Concurrent.Visit

namespace Switchyard

/-- A router, the time, and how far each call and each request has come. -/
structure System where
  router : Router
  now : Nat
  calls : Nat → Call
  visits : Nat → Visit

/-- What one step does, and who does it. -/
inductive Label where
  | call (i : Nat) (act : Call.Act)
  | visit (j : Nat) (act : Visit.Act)
  | tick (nanos : Nat)

namespace Label

/-- The pass that a step publishes, and whose it is. -/
def application : Label → Option (Nat × Selection)
  | call i act => act.applied.map (i, ·)
  | _ => none

/-- The pass that a step completes, and whose it is. -/
def completion : Label → Option (Nat × Selection)
  | call i act => act.collected.map (i, ·)
  | _ => none

/-- The record of a request after a step, which may be another's. -/
def note (j : Nat) (record : Visit.Record) : Label → Visit.Record
  | visit k act => if k = j then record.add act else record
  | _ => record

end Label

namespace System

/-! ## Moves -/

/-- The system once a call has come so far and left the router like this. -/
def moveCall (s : System) (i : Nat) (r : Router) (c : Call) : System :=
  { s with router := r, calls := Function.update s.calls i c }

/-- The system once a request has come so far and left the router like this. -/
def moveVisit (s : System) (j : Nat) (r : Router) (v : Visit) : System :=
  { s with router := r, visits := Function.update s.visits j v }

section Moves

variable (s : System) (i : Nat) (r : Router) (c : Call) (v : Visit)

@[simp] theorem router_moveCall : (s.moveCall i r c).router = r := rfl

@[simp] theorem calls_moveCall_self : (s.moveCall i r c).calls i = c := by
  simp [moveCall]

theorem calls_moveCall_of_ne {j : Nat} (h : j ≠ i) : (s.moveCall i r c).calls j = s.calls j := by
  simp [moveCall, h]

@[simp] theorem router_moveVisit : (s.moveVisit i r v).router = r := rfl

@[simp] theorem visits_moveVisit_self : (s.moveVisit i r v).visits i = v := by
  simp [moveVisit]

theorem visits_moveVisit_of_ne {j : Nat} (h : j ≠ i) :
    (s.moveVisit i r v).visits j = s.visits j := by
  simp [moveVisit, h]

@[simp] theorem moveCall_moveCall (r' : Router) (c' : Call) :
    (s.moveCall i r c).moveCall i r' c' = s.moveCall i r' c' := by
  simp [moveCall]

@[simp] theorem moveVisit_moveVisit (r' : Router) (v' : Visit) :
    (s.moveVisit i r v).moveVisit i r' v' = s.moveVisit i r' v' := by
  simp [moveVisit]

end Moves

/-! ## Steps and runs -/

/-- One step of a system, by anyone. -/
inductive Step (p : Proxy) : System → Label → System → Prop
  | call {s : System} {i : Nat} {c c' : Call} {act : Call.Act} {r : Router} (hc : s.calls i = c)
      (h : Call.Step s.now s.router c act r c') :
      Step p s (.call i act) (s.moveCall i r c')
  | visit {s : System} {j : Nat} {v v' : Visit} {act : Visit.Act} {r : Router}
      (hv : s.visits j = v) (h : Visit.Step p s.now s.router v act r v') :
      Step p s (.visit j act) (s.moveVisit j r v')
  | tick {s : System} (nanos : Nat) : Step p s (.tick nanos) { s with now := s.now + nanos }

/-- Steps in a row from some system, in any order. -/
inductive Run (p : Proxy) (start : System) : List Label → System → Prop
  | nil : Run p start [] start
  | snoc {trace : List Label} {l : Label} {s s' : System} (h : Run p start trace s)
      (hstep : Step p s l s') : Run p start (trace ++ [l]) s'

/-- Nobody has moved, nothing is published, and the gate is as it is built. -/
structure IsIdle (s : System) : Prop where
  state : s.router.state = {}
  gate : s.router.gate = {}
  calls : ∀ i, s.calls i = .fresh
  visits : ∀ j, s.visits j = .absent

/-- A system in which nobody has moved. -/
def idle (r : Router) (now : Nat := 0) : System :=
  { router := r, now, calls := fun _ => .fresh, visits := fun _ => .absent }

theorem isIdle_idle {r : Router} (hstate : r.state = {}) (hgate : r.gate = {}) : (idle r).IsIdle :=
  ⟨hstate, hgate, fun _ => rfl, fun _ => rfl⟩

/-! ## What a trace says -/

/-- The passes that were published, in that order, and whose they were. -/
def applications (trace : List Label) : List (Nat × Selection) := trace.filterMap Label.application

/-- The passes that were completed, in that order, and whose they were. -/
def completions (trace : List Label) : List (Nat × Selection) := trace.filterMap Label.completion

/-- What one request did. -/
def recordOf (j : Nat) (trace : List Label) : Visit.Record := trace.foldl (Label.note j) {}

theorem filterMap_snoc {α β : Type} (f : α → Option β) (xs : List α) (x : α) :
    (xs ++ [x]).filterMap f = xs.filterMap f ++ (f x).toList := by
  rw [List.filterMap_append]
  cases h : f x with
  | none => rw [List.filterMap_cons_none h]; rfl
  | some y => rw [List.filterMap_cons_some h]; rfl

theorem applications_snoc (trace : List Label) (l : Label) :
    applications (trace ++ [l]) = applications trace ++ l.application.toList :=
  filterMap_snoc Label.application trace l

theorem completions_snoc (trace : List Label) (l : Label) :
    completions (trace ++ [l]) = completions trace ++ l.completion.toList :=
  filterMap_snoc Label.completion trace l

theorem applications_of_none (trace : List Label) {l : Label} (h : l.application = none) :
    applications (trace ++ [l]) = applications trace := by
  rw [applications_snoc, h]
  exact List.append_nil _

theorem completions_of_none (trace : List Label) {l : Label} (h : l.completion = none) :
    completions (trace ++ [l]) = completions trace := by
  rw [completions_snoc, h]
  exact List.append_nil _

theorem recordOf_snoc (j : Nat) (trace : List Label) (l : Label) :
    recordOf j (trace ++ [l]) = l.note j (recordOf j trace) := by
  rw [recordOf, List.foldl_append]
  rfl

/-! ## Runs in parts -/

variable {p : Proxy} {start mid s : System}

/-- A call that has just moved moves on. -/
theorem Run.call {i : Nat} {r r' : Router} {c c' : Call} {act : Call.Act} {trace : List Label}
    (hrun : Run p start trace (s.moveCall i r c)) (h : Call.Step s.now r c act r' c') :
    Run p start (trace ++ [.call i act]) (s.moveCall i r' c') := by
  rw [← moveCall_moveCall s i r c r' c']
  exact hrun.snoc (Step.call (calls_moveCall_self s i r c) h)

/-- A request that has just moved moves on. -/
theorem Run.visit {j : Nat} {r r' : Router} {v v' : Visit} {act : Visit.Act} {trace : List Label}
    (hrun : Run p start trace (s.moveVisit j r v)) (h : Visit.Step p s.now r v act r' v') :
    Run p start (trace ++ [.visit j act]) (s.moveVisit j r' v') := by
  rw [← moveVisit_moveVisit s j r v r' v']
  exact hrun.snoc (Step.visit (visits_moveVisit_self s j r v) h)

/-- What every step of a call keeps, a run keeps of each call, whoever else moves. -/
theorem Run.keeps_call {P : Call → Prop}
    (hstep : ∀ {now r c act r' c'}, P c → Call.Step now r c act r' c' → P c') {trace : List Label}
    (hrun : Run p start trace s) {i : Nat} (hi : P (start.calls i)) : P (s.calls i) := by
  induction hrun with
  | nil => exact hi
  | @snoc _ _ s _ _ h ih =>
    cases h with
    | @call j c c' act r hc h =>
      subst hc
      by_cases hij : i = j
      · subst hij
        rw [calls_moveCall_self]
        exact hstep ih h
      · rw [calls_moveCall_of_ne _ _ _ _ hij]
        exact ih
    | visit => exact ih
    | tick => exact ih

theorem Run.append {before after : List Label} (hbefore : Run p start before mid)
    (hafter : Run p mid after s) : Run p start (before ++ after) s := by
  induction hafter with
  | nil =>
    rw [List.append_nil]
    exact hbefore
  | snoc _ hstep ih =>
    rw [← List.append_assoc]
    exact ih.snoc hstep

end System

end Switchyard
