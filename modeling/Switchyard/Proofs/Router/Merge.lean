/-
The merge policy over whole runs of passes.

A pass is decisive when it admits something or when nothing went wrong in it.  What is published after
any passes is settled by the last decisive one, however many failed passes came before it, between or
after.  `transition_cases` says what one pass can do to a state, `Agrees.after` what it does to a state
that agrees with the passes so far, and `settled_by_lastDecisive` what whole runs come to.
-/
import Mathlib.Data.List.Induction
import Switchyard.Router.State

namespace Switchyard

/-! ## Decisive passes -/

namespace Selection

/-- The pass admits a backend, or nothing went wrong in it. -/
def isDecisive (r : Selection) : Bool := !r.admitted.isEmpty || r.error.isNone

/-- The last decisive one of some passes. -/
def lastDecisive (rs : List Selection) : Option Selection := (rs.filter isDecisive).getLast?

/-- The pass admits something, and not what the last decisive pass before it admitted. -/
def isNewAfter (before : List Selection) (r : Selection) : Bool :=
  r.isDecisive && !r.admitted.isEmpty &&
    !(lastDecisive before).any fun p => Endpoint.sameAll p.admitted r.admitted

/-- The backends a pass gives a rule for, if it admits any. -/
def ruling (r : Selection) : Option (List (String × String)) :=
  if r.admitted = [] then none else some (r.admitted.map Endpoint.identity)

theorem isDecisive_of_admitted {r : Selection} (h : r.admitted ≠ []) : r.isDecisive = true := by
  have hne : r.admitted.isEmpty = false := by simpa using h
  rw [isDecisive, hne]
  rfl

/-- A pass that admits nothing is decisive exactly if nothing went wrong in it. -/
theorem isDecisive_of_nil {r : Selection} (h : r.admitted = []) : r.isDecisive = r.error.isNone := by
  rw [isDecisive, h]
  rfl

theorem lastDecisive_snoc_of_decisive (rs : List Selection) {r : Selection}
    (h : r.isDecisive = true) : lastDecisive (rs ++ [r]) = some r := by
  rw [lastDecisive, List.filter_append, List.filter_cons_of_pos h, List.filter_nil,
    List.getLast?_concat]

theorem lastDecisive_snoc_of_not_decisive {rs : List Selection} {r : Selection}
    (h : r.isDecisive = false) : lastDecisive (rs ++ [r]) = lastDecisive rs := by
  rw [lastDecisive, List.filter_append, List.filter_cons_of_neg (by simp [h]), List.filter_nil,
    List.append_nil, lastDecisive]

theorem ruling_of_nil {r : Selection} (h : r.admitted = []) : r.ruling = none := if_pos h

theorem ruling_of_ne_nil {r : Selection} (h : r.admitted ≠ []) :
    r.ruling = some (r.admitted.map Endpoint.identity) := if_neg h

end Selection

namespace RouterState

open Selection (lastDecisive isNewAfter)

/-! ## Runs of passes -/

/-- The published state after some passes in a row. -/
def afterAll (strategy : Strategy) (s : RouterState) (rs : List Selection) : RouterState :=
  rs.foldl (fun s r => s.after r strategy) s

/-- A transition installs a new rule. -/
def Transition.isInstall : Transition → Bool
  | .install _ => true
  | _ => false

/-- How many of some passes in a row install a new rule. -/
def installs (strategy : Strategy) : RouterState → List Selection → Nat
  | _, [] => 0
  | s, r :: rs =>
    (s.transition r strategy).isInstall.toNat + installs strategy (s.after r strategy) rs

/-- The backends that the rule in force is for. -/
def ruled (s : RouterState) : Option (List (String × String)) :=
  s.rule.map fun rule => rule.selection.map Endpoint.identity

theorem afterAll_snoc (strategy : Strategy) (s : RouterState) (rs : List Selection) (r : Selection) :
    s.afterAll strategy (rs ++ [r]) = (s.afterAll strategy rs).after r strategy := by
  rw [afterAll, List.foldl_append]
  rfl

theorem installs_snoc (strategy : Strategy) (s : RouterState) (rs : List Selection) (r : Selection) :
    s.installs strategy (rs ++ [r]) =
      s.installs strategy rs + ((s.afterAll strategy rs).transition r strategy).isInstall.toNat := by
  induction rs generalizing s with
  | nil => simp [installs, afterAll]
  | cons x rs ih =>
    rw [List.cons_append, installs, ih, installs, Nat.add_assoc]
    rfl

/-! ## What one pass can do -/

/-- What a pass can do to a state: publish itself under the rule in force, install a rule of its own,
leave everything as it is, or clear the rule. -/
theorem transition_cases (s : RouterState) (r : Selection) (strategy : Strategy) :
    (r.admitted ≠ [] ∧ s.isUnchanged r = true ∧
      s.transition r strategy = .replace ⟨some r, s.rule⟩) ∨
    (r.admitted ≠ [] ∧ s.isUnchanged r = false ∧
      s.transition r strategy = .install ⟨some r, Rule.of? r.admitted strategy⟩) ∨
    (r.isDecisive = false ∧ s.selection.isSome = true ∧ s.transition r strategy = .keep) ∨
    (r.admitted = [] ∧ (r.isDecisive = true ∨ s.selection = none) ∧
      s.transition r strategy = .replace ⟨some r, none⟩) := by
  by_cases hnil : r.admitted = []
  · right
    right
    rw [Selection.isDecisive_of_nil hnil]
    cases herror : r.error with
    | none => exact Or.inr ⟨hnil, Or.inl rfl, by simp [transition, hnil, herror]⟩
    | some e =>
      cases hs : s.selection with
      | none => exact Or.inr ⟨hnil, Or.inr rfl, by simp [transition, hnil, hs]⟩
      | some known => exact Or.inl ⟨rfl, rfl, by simp [transition, hnil, herror, hs]⟩
  · cases hu : s.isUnchanged r with
    | true => exact Or.inl ⟨hnil, rfl, by simp [transition, hnil, hu]⟩
    | false => exact Or.inr (Or.inl ⟨hnil, rfl, by simp [transition, hnil, hu]⟩)

/-! ## States that agree with the passes so far -/

/-- What is published, and for which backends there is a rule, as the passes so far make it. -/
structure Agrees (s : RouterState) (rs : List Selection) : Prop where
  selection : s.selection = (lastDecisive rs).or rs.head?
  ruled : s.ruled = (lastDecisive rs).bind Selection.ruling

theorem agrees_default : Agrees {} [] := ⟨rfl, rfl⟩

section Agrees

variable {s : RouterState} {rs : List Selection} {r : Selection}

/-- Before the first pass nothing is known, and after it something is. -/
theorem Agrees.isSome_selection (h : s.Agrees rs) : s.selection.isSome = !rs.isEmpty := by
  rw [h.selection]
  cases rs with
  | nil => rfl
  | cons x xs => simp

theorem Agrees.isSome_rule (h : s.Agrees rs) :
    s.rule.isSome = ((lastDecisive rs).bind Selection.ruling).isSome := by
  rw [← h.ruled, RouterState.ruled, Option.isSome_map]

/-- A selection counts as unchanged exactly if the last decisive pass admitted the same backends. -/
theorem Agrees.isUnchanged (h : s.Agrees rs) (hr : r.admitted ≠ []) :
    s.isUnchanged r = (lastDecisive rs).any fun p => Endpoint.sameAll p.admitted r.admitted := by
  rw [RouterState.isUnchanged, h.isSome_rule, h.selection]
  cases hp : lastDecisive rs with
  | none => rfl
  | some p =>
    -- a decisive pass that admitted nothing left no rule, and no pass that admits something is like it
    by_cases hnil : p.admitted = []
    · have hdiffer : Endpoint.sameAll p.admitted r.admitted = false := by
        rw [Bool.eq_false_iff]
        intro hsame
        rw [Endpoint.sameAll_iff, hnil] at hsame
        exact hr (List.map_eq_nil_iff.1 hsame.symm)
      simp [Selection.ruling_of_nil hnil, hdiffer]
    · simp [Selection.ruling_of_ne_nil hnil]

/-- A pass installs a rule exactly if it admits something new. -/
theorem Agrees.isInstall (h : s.Agrees rs) (strategy : Strategy) :
    (s.transition r strategy).isInstall = isNewAfter rs r := by
  have hnew : r.admitted ≠ [] → isNewAfter rs r = !s.isUnchanged r := by
    intro hne
    rw [isNewAfter, Selection.isDecisive_of_admitted hne, h.isUnchanged hne]
    simp [hne]
  rcases transition_cases s r strategy with
    ⟨hne, hu, ht⟩ | ⟨hne, hu, ht⟩ | ⟨hd, -, ht⟩ | ⟨hnil, -, ht⟩
  · rw [ht, hnew hne, hu]
    rfl
  · rw [ht, hnew hne, hu]
    rfl
  · rw [ht, isNewAfter, hd]
    rfl
  · rw [ht, isNewAfter, hnil, List.isEmpty_nil, Bool.not_true, Bool.and_false, Bool.false_and]
    rfl

/-- One more pass keeps the agreement. -/
theorem Agrees.after (h : s.Agrees rs) (strategy : Strategy) :
    (s.after r strategy).Agrees (rs ++ [r]) := by
  rcases transition_cases s r strategy with
    ⟨hne, hu, ht⟩ | ⟨hne, -, ht⟩ | ⟨hd, hs, ht⟩ | ⟨hnil, hd, ht⟩
  · have hlast := Selection.lastDecisive_snoc_of_decisive rs
      (Selection.isDecisive_of_admitted hne)
    rw [RouterState.after, ht]
    refine ⟨?_, ?_⟩
    · rw [hlast]
      rfl
    · -- the rule stays, and the last decisive pass admitted the same backends
      rw [h.isUnchanged hne] at hu
      obtain ⟨p, hp, hsame⟩ := (Option.any_eq_true _ _).1 hu
      rw [Endpoint.sameAll_iff] at hsame
      have hpne : p.admitted ≠ [] := by
        intro hpnil
        rw [hpnil] at hsame
        exact hne (List.map_eq_nil_iff.1 hsame.symm)
      show s.ruled = _
      rw [h.ruled, hp, hlast, Option.bind_some, Option.bind_some,
        Selection.ruling_of_ne_nil hpne, Selection.ruling_of_ne_nil hne, hsame]
  · -- the pass publishes itself under a rule of its own
    have hlast := Selection.lastDecisive_snoc_of_decisive rs
      (Selection.isDecisive_of_admitted hne)
    rw [RouterState.after, ht]
    refine ⟨?_, ?_⟩
    · rw [hlast]
      rfl
    · rw [hlast, Option.bind_some, Selection.ruling_of_ne_nil hne]
      simp [RouterState.ruled, Rule.of?, hne]
  · -- something is known, so this is not the first pass
    have hrs : rs ≠ [] := by
      rw [h.isSome_selection] at hs
      simpa using hs
    obtain ⟨x, xs, rfl⟩ := List.exists_cons_of_ne_nil hrs
    rw [RouterState.after, ht]
    refine ⟨?_, ?_⟩
    · rw [Selection.lastDecisive_snoc_of_not_decisive hd, h.selection]
      rfl
    · rw [Selection.lastDecisive_snoc_of_not_decisive hd]
      exact h.ruled
  · -- the pass clears the rule, because it is decisive or because nothing is known yet
    rw [RouterState.after, ht]
    cases hdecisive : r.isDecisive with
    | true =>
      have hlast := Selection.lastDecisive_snoc_of_decisive rs hdecisive
      refine ⟨?_, ?_⟩
      · rw [hlast]
        rfl
      · rw [hlast]
        exact (Selection.ruling_of_nil hnil).symm
    | false =>
      -- nothing is known, so this is the first pass
      have hrs : rs = [] := by
        rcases hd with hd | hd
        · rw [hdecisive] at hd
          cases hd
        · have hsome := h.isSome_selection
          rw [hd] at hsome
          simpa using hsome
      subst hrs
      refine ⟨?_, ?_⟩
      · rw [Selection.lastDecisive_snoc_of_not_decisive hdecisive]
        rfl
      · rw [Selection.lastDecisive_snoc_of_not_decisive hdecisive]
        rfl

end Agrees

/-! ## Whole runs -/

variable (strategy : Strategy) (rs : List Selection)

/-- Whatever the passes, the published state agrees with them. -/
theorem agrees_afterAll : (afterAll strategy {} rs).Agrees rs := by
  induction rs using List.reverseRecOn with
  | nil => exact agrees_default
  | append_singleton rs r ih =>
    rw [afterAll_snoc]
    exact ih.after strategy

/-- Rules are installed by the passes that admit something new, and by no others. -/
theorem installs_eq_countP :
    installs strategy {} rs = rs.zipIdx.countP fun x => isNewAfter (rs.take x.2) x.1 := by
  induction rs using List.reverseRecOn with
  | nil => rfl
  | append_singleton rs r ih =>
    have hbefore : (rs.zipIdx.countP fun x => isNewAfter ((rs ++ [r]).take x.2) x.1)
        = rs.zipIdx.countP fun x => isNewAfter (rs.take x.2) x.1 := by
      -- a pass that is not the last one has the same passes before it
      apply List.countP_congr
      intro x hx
      have hi : x.2 < rs.length := (List.mem_zipIdx' hx).1
      rw [List.take_append_of_le_length (Nat.le_of_lt hi)]
    rw [installs_snoc, ih, (agrees_afterAll strategy rs).isInstall, List.zipIdx_append,
      List.countP_append, hbefore]
    cases hnew : isNewAfter rs r <;> simp [hnew]

/-- **The merge policy over a whole run.**  From nothing known, any passes in a row publish the last
decisive one, or the first of all if none is decisive.  There is a rule exactly if the last decisive
pass admitted something, and it is for the backends that this pass admitted.  As many rules have been
installed as there are passes that admit something new. -/
theorem settled_by_lastDecisive :
    (afterAll strategy {} rs).selection = (lastDecisive rs).or rs.head? ∧
    ((afterAll strategy {} rs).rule.isSome = true ↔
      ∃ r, lastDecisive rs = some r ∧ r.admitted ≠ []) ∧
    (∀ rule r, (afterAll strategy {} rs).rule = some rule → lastDecisive rs = some r →
      rule.selection.map Endpoint.identity = r.admitted.map Endpoint.identity) ∧
    installs strategy {} rs = rs.zipIdx.countP fun x => isNewAfter (rs.take x.2) x.1 := by
  have h := agrees_afterAll strategy rs
  refine ⟨h.selection, ?_, ?_, installs_eq_countP strategy rs⟩
  · rw [h.isSome_rule]
    cases hlast : lastDecisive rs with
    | none => simp
    | some r => simp [Selection.ruling]
  · intro rule r hrule hlast
    have hruled := h.ruled
    rw [ruled, hrule, hlast, Option.map_some, Option.bind_some, Selection.ruling] at hruled
    split at hruled
    · cases hruled
    · exact Option.some.inj hruled

end RouterState

end Switchyard
