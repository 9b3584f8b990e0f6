/-
Counters of what the program has done.
-/
import Switchyard.Text.Split

namespace Switchyard

/-- Counts by label values. -/
abbrev Tally := List (List String × Nat)

namespace Tally

/-- The count of some label values. -/
def count (t : Tally) (labels : List String) : Nat := (t.lookup labels).getD 0

/-- Counts one more. -/
def bump (t : Tally) (labels : List String) : Tally :=
  match t with
  | [] => [(labels, 1)]
  | (l, n) :: rest => if l = labels then (l, n + 1) :: rest else (l, n) :: bump rest labels

/-- All counts together. -/
def total : Tally → Nat
  | [] => 0
  | (_, n) :: rest => n + total rest

/-- One more is counted under the given labels and nowhere else. -/
theorem count_bump (t : Tally) (labels other : List String) :
    (t.bump labels).count other = t.count other + if other = labels then 1 else 0 := by
  induction t with
  | nil =>
      by_cases h : other = labels
      · simp [bump, count, h]
      · have hb : (other == labels) = false := by simpa using h
        simp [bump, count, h, List.lookup_cons, hb]
  | cons e rest ih =>
      obtain ⟨l, n⟩ := e
      by_cases hl : l = labels
      · subst hl
        by_cases h : other = l
        · simp [bump, count, h]
        · have hb : (other == l) = false := by simpa using h
          simp [bump, count, h, List.lookup_cons, hb]
      · by_cases h : other = l
        · have : ¬other = labels := fun he => hl (h ▸ he)
          simp [bump, count, hl, h]
        · have hb : (other == l) = false := by simpa using h
          simp only [bump, hl, if_false, count, List.lookup_cons, hb] at ih ⊢
          exact ih

/-- The total grows by one. -/
@[simp] theorem total_bump (t : Tally) (labels : List String) :
    (t.bump labels).total = t.total + 1 := by
  induction t with
  | nil => rfl
  | cons e rest ih =>
      obtain ⟨l, n⟩ := e
      by_cases hl : l = labels
      · simp only [bump, hl, if_true, total]
        omega
      · simp only [bump, hl, if_false, total] at ih ⊢
        omega

end Tally

/-- Everything that is counted. -/
structure Metrics where
  selectedBackends : Nat := 0
  selectionEvents : Nat := 0
  selectionErrors : Nat := 0
  ruleInstalls : Nat := 0
  /-- By outcome. -/
  affinityLookups : Tally := []
  /-- By method and status. -/
  requests : Tally := []
  /-- Observed durations, by method and status. -/
  requestDurations : Tally := []
  /-- By backend and outcome. -/
  backendRequests : Tally := []
  /-- Observed durations, by backend. -/
  backendDurations : Tally := []

namespace Metrics

/-- A pass admitted some backends, and perhaps reported an error. -/
def recordSelection (m : Metrics) (admitted : Nat) (failed : Bool) : Metrics :=
  { m with
    selectedBackends := admitted
    selectionEvents := m.selectionEvents + 1
    selectionErrors := m.selectionErrors + if failed then 1 else 0 }

/-- A new rule was installed. -/
def recordInstall (m : Metrics) : Metrics := { m with ruleInstalls := m.ruleInstalls + 1 }

/-- A binding was looked up. -/
def recordAffinity (m : Metrics) (outcome : String) : Metrics :=
  { m with affinityLookups := m.affinityLookups.bump [outcome] }

/-- A request was answered. -/
def recordRequest (m : Metrics) (method : String) (status : Nat) : Metrics :=
  { m with
    requests := m.requests.bump [method, toString status]
    requestDurations := m.requestDurations.bump [method, toString status] }

/-- The word for the outcome of a forwarded request. -/
def outcomeLabel (success : Bool) : String := if success then "success" else "failure"

/-- A request was forwarded, retries included. -/
def recordBackend (m : Metrics) (backend : String) (success : Bool) : Metrics :=
  { m with
    backendRequests := m.backendRequests.bump [backend, outcomeLabel success]
    backendDurations := m.backendDurations.bump [backend] }

end Metrics

end Switchyard
