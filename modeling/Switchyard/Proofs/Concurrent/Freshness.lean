/-
What a call to refresh has waited for once it returns.

A call tells by its phase what it has done so far (`Call.Tells`), and `actsOf` reads the same off a trace.
So a call that has performed its pass has made all of it since it was made.  One that has joined another's
turn has waited for that turn to be given back: the pass made in it began before the call, and was
cancelled or applied (`returns_after_pass`).  It need not have begun, and need not even have been made, as
late as the call (`joined_may_be_stale`).
-/
import Switchyard.Proofs.Concurrent.SingleFlight

namespace Switchyard

namespace Call

/-! ## One call by itself -/

/-- Taking the turn, and asking so many times. -/
def asked (n : Nat) : List Act := .enter :: List.replicate n .ask

/-- A whole pass, from taking the turn for it until it is applied. -/
def pass (n : Nat) (next : Selection) : List Act :=
  asked n ++ [.collect next, .read, .publish next, .count, .prune]

/-- What a call has done so far, as its phase tells. -/
def Tells (acts : List Act) : Call → Prop
  | fresh => acts = []
  | selecting => ∃ n, acts = asked n
  | selected next => ∃ n, acts = asked n ++ [.collect next]
  | merging next _ => ∃ n, acts = asked n ++ [.collect next, .read]
  | published next => ∃ n, acts = asked n ++ [.collect next, .read, .publish next]
  | counted => ∃ n next, acts = asked n ++ [.collect next, .read, .publish next, .count]
  | applied => ∃ n next, acts = pass n next
  | abandoned => ∃ n, acts = asked n ++ [.cancel]
  | waiting _ => acts = [.enter]
  | performed => ∃ n next, acts = pass n next ++ [.leave]
  | joined => acts = [.enter, .resume]
  | cancelled => acts = [.cancel] ∨ acts = [.enter, .cancel] ∨ ∃ n, acts = asked n ++ [.cancel, .leave]

theorem asked_succ (n : Nat) : asked n ++ [.ask] = asked (n + 1) := by
  rw [asked, List.cons_append, ← List.replicate_succ']
  rfl

variable {now : Nat} {r r' : Router} {c c' : Call} {act : Act} {acts : List Act}

/-- One more step of a call keeps the account. -/
theorem Tells.step (hc : c.Tells acts) (h : Step now r c act r' c') : c'.Tells (acts ++ [act]) := by
  cases h with
  | takeTurn h =>
    subst hc
    exact ⟨0, rfl⟩
  | takePlace h =>
    subst hc
    rfl
  | ask locators =>
    obtain ⟨n, rfl⟩ := hc
    exact ⟨n + 1, asked_succ n⟩
  | collect locators found =>
    obtain ⟨n, rfl⟩ := hc
    exact ⟨n, rfl⟩
  | read | publish =>
    obtain ⟨n, rfl⟩ := hc
    exact ⟨n, List.append_assoc _ _ _⟩
  | @count next =>
    obtain ⟨n, rfl⟩ := hc
    exact ⟨n, next, List.append_assoc _ _ _⟩
  | prune =>
    obtain ⟨n, next, rfl⟩ := hc
    exact ⟨n, next, List.append_assoc _ _ _⟩
  | leave =>
    obtain ⟨n, next, rfl⟩ := hc
    exact ⟨n, next, rfl⟩
  | forget =>
    subst hc
    exact Or.inl rfl
  | abandon =>
    obtain ⟨n, rfl⟩ := hc
    exact ⟨n, rfl⟩
  | release =>
    obtain ⟨n, rfl⟩ := hc
    exact Or.inr (Or.inr ⟨n, List.append_assoc _ _ _⟩)
  | giveUp =>
    subst hc
    exact Or.inr (Or.inl rfl)
  | resume h =>
    subst hc
    rfl

/-- Whoever holds the turn has taken it. -/
theorem Tells.enter_mem (hc : c.Tells acts) (hturn : c.holdsTurn = true) : .enter ∈ acts := by
  have hasked : ∀ n (rest : List Act), .enter ∈ asked n ++ rest :=
    fun n rest => List.mem_append_left rest List.mem_cons_self
  cases c with
  | selecting =>
    obtain ⟨n, rfl⟩ := hc
    exact List.mem_cons_self
  | selected _ | merging _ _ | published _ | abandoned =>
    obtain ⟨n, rfl⟩ := hc
    exact hasked n _
  | counted | applied =>
    obtain ⟨n, next, rfl⟩ := hc
    exact hasked n _
  | _ => cases hturn

/-- Nothing but leaving gives the turn back. -/
theorem Step.act_eq_leave (h : Step now r c act r' c') (hturn : c.holdsTurn = true)
    (hgiven : c'.holdsTurn = false) : act = .leave := by
  cases h with
  | leave => rfl
  | release => rfl
  | takeTurn h => cases hturn
  | takePlace h => cases hturn
  | forget => cases hturn
  | giveUp => cases hturn
  | resume h => cases hturn
  | _ => cases hgiven -- after these the turn is still held

end Call

/-- What a step does on behalf of a call. -/
def Label.act? (i : Nat) : Label → Option Call.Act
  | call k act => if k = i then some act else none
  | _ => none

namespace System

variable {p : Proxy} {start mid mid' s s' : System} {trace before after : List Label} {i w : Nat}

/-! ## Calls in a run -/

/-- What a call did, in order. -/
def actsOf (i : Nat) (trace : List Label) : List Call.Act := trace.filterMap (Label.act? i)

theorem actsOf_snoc (i : Nat) (trace : List Label) (l : Label) :
    actsOf i (trace ++ [l]) = actsOf i trace ++ (l.act? i).toList :=
  filterMap_snoc (Label.act? i) trace l

theorem actsOf_append (i : Nat) (before after : List Label) :
    actsOf i (before ++ after) = actsOf i before ++ actsOf i after := List.filterMap_append

/-- Each call does what its phase tells, whatever the others do. -/
theorem IsIdle.tells_run (h : start.IsIdle) (hrun : Run p start trace s) (i : Nat) :
    (s.calls i).Tells (actsOf i trace) := by
  induction hrun with
  | nil =>
    rw [h.calls i]
    rfl
  | @snoc trace _ s _ _ hstep ih =>
    rw [actsOf_snoc]
    cases hstep with
    | @call k c c' act r hc hstep =>
      subst hc
      by_cases hki : k = i
      · subst hki
        rw [calls_moveCall_self, Label.act?, if_pos rfl]
        exact ih.step hstep
      · rw [calls_moveCall_of_ne _ _ _ _ (Ne.symm hki), Label.act?, if_neg hki, Option.toList_none,
          List.append_nil]
        exact ih
    | visit | tick =>
      -- not a step of any call
      show (s.calls i).Tells (actsOf i trace ++ [])
      rw [List.append_nil]
      exact ih

/-- By entering, nobody is deprived of the turn. -/
theorem Step.holdsTurn_of_enter (h : Step p mid (.call i .enter) mid')
    (hturn : (mid.calls w).holdsTurn = true) : (mid'.calls w).holdsTurn = true := by
  cases h with
  | call hc h =>
    have hne : w ≠ i := by
      rintro rfl
      rw [hc, h.enter_cases.1] at hturn
      cases hturn
    rw [calls_moveCall_of_ne _ _ _ _ hne]
    exact hturn

/-- Whoever holds the turn still does, or has left since. -/
theorem Run.holdsTurn_or_leave (hrun : Run p start trace s)
    (hturn : (start.calls w).holdsTurn = true) :
    (s.calls w).holdsTurn = true ∨ .leave ∈ actsOf w trace := by
  induction hrun with
  | nil => exact Or.inl hturn
  | snoc _ hstep ih =>
    rw [actsOf_snoc, List.mem_append]
    rcases ih with hheld | hleft
    · cases hstep with
      | @call k c c' act r hc hstep =>
        subst hc
        by_cases hkw : k = w
        · subst hkw
          rw [calls_moveCall_self, Label.act?, if_pos rfl]
          cases hheld' : c'.holdsTurn with
          | true => exact Or.inl rfl
          | false =>
            rw [hstep.act_eq_leave hheld hheld']
            exact Or.inr (Or.inr (List.mem_singleton_self _))
        · rw [calls_moveCall_of_ne _ _ _ _ (Ne.symm hkw)]
          exact Or.inl hheld
      | visit => exact Or.inl hheld
      | tick => exact Or.inl hheld
    · exact Or.inr (Or.inl hleft)

/-- All of a pass that some call makes lies within these steps: it takes the turn for it, completes it and
applies it. -/
def HoldsPass (trace : List Label) (w : Nat) : Prop :=
  ∃ n next, Call.pass n next <+: actsOf w trace

/-- Until it is made a call does nothing. -/
theorem IsIdle.actsOf_eq_nil (h : start.IsIdle) (hbefore : Run p start before mid)
    (hstep : Step p mid (.call i .enter) mid') : actsOf i before = [] := by
  have htells := h.tells_run hbefore i
  cases hstep with
  | call hc hstep =>
    rw [hc, hstep.enter_cases.1] at htells
    exact htells

/-- **A call returns after a pass.**  Whatever the order of the steps of any calls, requests and
cancellations: if a call returns after performing its pass, then all of that pass has been made since the
call was made.  If it returns after joining another's turn, that turn was held when the call was made, so
the pass in it began before; the turn has been given back since, and by then either its whole pass was
applied or it was cancelled. -/
theorem returns_after_pass (hstart : start.IsIdle) (hbefore : Run p start before mid)
    (hstep : Step p mid (.call i .enter) mid') (hafter : Run p mid' after s) :
    (s.calls i = .performed → HoldsPass (.call i .enter :: after) i) ∧
    (s.calls i = .joined → ∃ w, (mid.calls w).holdsTurn = true ∧ .enter ∈ actsOf w before ∧
      .leave ∈ actsOf w after ∧
      (HoldsPass (before ++ .call i .enter :: after) w ∨ s.calls w = .cancelled)) := by
  have hrun : Run p start (before ++ .call i .enter :: after) s := by
    rw [List.append_cons]
    exact (hbefore.snoc hstep).append hafter
  have hserial := hstart.isSerial.run hbefore
  constructor
  · intro hperformed
    have htells := hstart.tells_run hrun i
    rw [hperformed, actsOf_append, hstart.actsOf_eq_nil hbefore hstep, List.nil_append] at htells
    obtain ⟨n, next, hacts⟩ := htells
    exact ⟨n, next, [.leave], hacts.symm⟩
  · intro hjoined
    obtain ⟨w, hturn, hend⟩ := exists_writer_of_joined hserial hstep hafter hjoined
    refine ⟨w, hturn, (hstart.tells_run hbefore w).enter_mem hturn, ?_, ?_⟩
    · rcases hafter.holdsTurn_or_leave (hstep.holdsTurn_of_enter hturn) with hheld | hleft
      · -- whoever held the turn is done by now
        rcases hend with hend | hend <;> rw [hend] at hheld <;> cases hheld
      · exact hleft
    · rcases hend with hcancelled | hperformed
      · exact Or.inr hcancelled
      · obtain ⟨n, next, hacts⟩ : (Call.performed).Tells _ := hperformed ▸ hstart.tells_run hrun w
        exact Or.inl ⟨n, next, [.leave], hacts.symm⟩

theorem call_mem_of_mem_actsOf {act : Call.Act} (h : act ∈ actsOf w trace) :
    .call w act ∈ trace := by
  obtain ⟨l, hl, hact⟩ := List.mem_filterMap.1 h
  cases l with
  | call k other =>
    rw [Label.act?, Option.ite_none_right_eq_some] at hact
    obtain ⟨rfl, hact⟩ := hact
    rw [← Option.some.inj hact]
    exact hl
  | visit | tick => cases hact

/-- Whose pass is held begins with taking the turn for it, and has pruned by the end. -/
theorem HoldsPass.ends (h : HoldsPass trace w) :
    (actsOf w trace).head? = some .enter ∧ .call w .prune ∈ trace := by
  obtain ⟨n, next, rest, hacts⟩ := h
  rw [← hacts]
  refine ⟨rfl, call_mem_of_mem_actsOf ?_⟩
  rw [← hacts]
  simp [Call.pass]

/-- One call holds the turn. -/
def taken : System := (idle rotating).moveCall 0 rotating.enter.2.1 .selecting

/-- Another call has met the turn. -/
def met : System := taken.moveCall 1 taken.router.enter.2.1 (.waiting 1)

theorem run_taken : Run {} (idle rotating) [.call 0 .enter] taken :=
  Run.nil.snoc (.call rfl (.takeTurn rfl))

theorem step_met : Step {} taken (.call 1 .enter) met := .call rfl (.takePlace rfl)

/-- The turn that was met is given back after a pass. -/
def shared : List Label :=
  [.call 0 (.collect onePass), .call 0 .read, .call 0 (.publish onePass), .call 0 .count,
   .call 0 .prune, .call 0 .leave, .call 1 .resume]

theorem run_shared :
    ∃ s, Run {} met shared s ∧ s.calls 0 = .performed ∧ s.calls 1 = .joined := by
  have h1 := (Run.nil (p := {})).snoc (.call (s := met) (i := 0) rfl (.collect [] oneBackend))
  have h2 := h1.snoc (.call (i := 0) rfl .read)
  have h3 := h2.snoc (.call (i := 0) rfl .publish)
  have h4 := h3.snoc (.call (i := 0) rfl .count)
  have h5 := h4.snoc (.call (i := 0) rfl .prune)
  have h6 := h5.snoc (.call (i := 0) rfl .leave)
  have h7 := h6.snoc (.call (i := 1) rfl (.resume rfl))
  exact ⟨_, h7, rfl, rfl⟩

/-- The turn that was met is given back because its holder was cancelled. -/
def deserted : List Label := [.call 0 .cancel, .call 0 .leave, .call 1 .resume]

theorem run_deserted :
    ∃ s, Run {} met deserted s ∧ s.calls 0 = .cancelled ∧ s.calls 1 = .joined := by
  have h1 := (Run.nil (p := {})).snoc (.call (s := met) (i := 0) rfl .abandon)
  have h2 := h1.snoc (.call (i := 0) rfl .release)
  have h3 := h2.snoc (.call (i := 1) rfl (.resume rfl))
  exact ⟨_, h3, rfl, rfl⟩

/-- After the shared pass both calls return: the one made it, and the other waited for it. -/
theorem returns_after_pass_shared :
    ∃ s, Run {} met shared s ∧ s.calls 1 = .joined ∧
      HoldsPass ([.call 0 .enter] ++ .call 1 .enter :: shared) 0 ∧
      HoldsPass (.call 0 .enter :: .call 1 .enter :: shared) 0 := by
  obtain ⟨s, hrun, h0, h1⟩ := run_shared
  have hidle : (idle rotating).IsIdle := isIdle_idle rfl rfl
  have hentered : Run {} taken ([.call 1 .enter] ++ shared) s :=
    (Run.nil.snoc step_met).append hrun
  obtain ⟨-, hjoined⟩ := returns_after_pass hidle run_taken step_met hrun
  obtain ⟨hperformed, -⟩ :=
    returns_after_pass hidle Run.nil (.call rfl (.takeTurn rfl)) hentered
  obtain ⟨w, hturn, -, -, hpass⟩ := hjoined h1
  refine ⟨s, hrun, h1, ?_, hperformed h0⟩
  -- nobody but the first call holds the turn that was met
  rcases w with _ | w
  · rcases hpass with hpass | hcancelled
    · exact hpass
    · rw [h0] at hcancelled
      cases hcancelled
  · cases hturn

/-- **A joined pass may be stale.**  A call that returns after joining another's turn need not have waited
for a pass that began as late as the call, nor for any pass at all. -/
theorem joined_may_be_stale :
    (¬ ∀ (before after : List Label) (mid mid' s : System) (i : Nat),
      Run {} (idle rotating) before mid → Step {} mid (.call i .enter) mid' → Run {} mid' after s →
      s.calls i = .performed ∨ s.calls i = .joined →
      ∃ w, HoldsPass (.call i .enter :: after) w) ∧
    ∃ s, Run {} met deserted s ∧ s.calls 1 = .joined ∧
      ∀ w, ¬ HoldsPass ([.call 0 .enter] ++ .call 1 .enter :: deserted) w := by
  constructor
  · intro hclaim
    obtain ⟨s, hrun, -, h1⟩ := run_shared
    obtain ⟨w, hpass⟩ := hclaim _ _ _ _ _ 1 run_taken step_met hrun (Or.inr h1)
    obtain ⟨hhead, hprune⟩ := hpass.ends
    -- only the first call prunes, and its pass had begun before
    have hw : w = 0 := by simpa [shared] using hprune
    subst hw
    cases hhead
  · obtain ⟨s, hrun, -, h1⟩ := run_deserted
    refine ⟨s, hrun, h1, ?_⟩
    intro w hpass
    obtain ⟨-, hprune⟩ := hpass.ends
    simp [deserted] at hprune -- nobody prunes

end System

end Switchyard
