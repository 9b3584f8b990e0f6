/-
Pruning cannot be noticed while the rule stays in force.

A `Tenure` is the time one rule is in force: choices are made and committed and time passes.  Two tenures
go `InStep` when one lacks at most bindings that its rule cannot honour, and never will again, since
bindings only grow older (`isUsable_of_le`).  Every act keeps them in step (`InStep.step`): where the full
one drops a binding the other finds none, and both ask the rule with the same cursor.
-/
import Mathlib.Data.List.Forall2
import Switchyard.Proofs.Affinity.Choice
import Switchyard.Router

namespace Switchyard

/-! ## Matching choices -/

namespace Resolution

/-- The second choice is for the same endpoint, and by a hit exactly if the first is; it may be a miss
where the first is stale. -/
structure Matches (r r' : Resolution) : Prop where
  endpoint : r'.endpoint = r.endpoint
  hit : r.outcome = .hit ↔ r'.outcome = .hit
  outcome : r'.outcome = r.outcome ∨ r.outcome = .stale ∧ r'.outcome = .miss

theorem Matches.refl (r : Resolution) : r.Matches r := ⟨rfl, Iff.rfl, .inl rfl⟩

theorem Matches.isNew_eq {r r' : Resolution} (h : r.Matches r') : r'.isNew = r.isNew := by
  rcases h.outcome with hsame | ⟨hstale, hmiss⟩
  · rw [isNew, isNew, hsame]
  · rw [isNew, isNew, hstale, hmiss]

end Resolution

namespace Affinity

variable {a : Affinity} {bindings full lean : Bindings} {cursor : Cursor} {now : Nat} {rule : Rule}
  {key : String} {b : Binding}

/-! ## Bindings that cannot be honoured -/

/-- A binding that can be honoured later can be honoured now. -/
theorem isUsable_of_le {later : Nat} (hle : now ≤ later) (h : a.isUsable later rule b = true) :
    a.isUsable now rule b = true := by
  obtain ⟨hmember, hage⟩ := isUsable_iff.1 h
  refine isUsable_iff.2 ⟨hmember, fun ttl httl => ?_⟩
  have := hage ttl httl
  omega

/-- What is missing from `lean` cannot be honoured. -/
def LacksUnusable (a : Affinity) (now : Nat) (rule : Rule) (full lean : Bindings) : Prop :=
  ∀ key, lean.get? key = full.get? key ∨
    lean.get? key = none ∧ ∃ b, full.get? key = some b ∧ a.isUsable now rule b = false

theorem lacksUnusable_prune (a : Affinity) (now : Nat) (rule : Rule) (bindings : Bindings) :
    a.LacksUnusable now rule bindings (a.prune bindings now (some rule)) := by
  intro key
  rw [prune, Bindings.get?_keepIf]
  cases hfound : bindings.get? key with
  | none => exact .inl rfl
  | some b =>
      cases husable : a.isUsable now rule b with
      | true => exact .inl (by simp [Option.filter, husable])
      | false => exact .inr ⟨by simp [Option.filter, husable], b, rfl, husable⟩

/-- Time brings no binding back. -/
theorem LacksUnusable.mono {later : Nat} (h : a.LacksUnusable now rule full lean)
    (hle : now ≤ later) : a.LacksUnusable later rule full lean := by
  intro key
  rcases h key with hsame | ⟨hnone, b, hfull, hunusable⟩
  · exact .inl hsame
  · refine .inr ⟨hnone, b, hfull, ?_⟩
    rw [Bool.eq_false_iff] at hunusable ⊢
    exact fun husable => hunusable (isUsable_of_le hle husable)

/-! ## One choice in both -/

/-- A choice goes by the binding of its key. -/
theorem resolve_congr (h : lean.get? key = full.get? key) :
    (a.resolve lean cursor now rule (some key)).resolution =
        (a.resolve full cursor now rule (some key)).resolution ∧
      (a.resolve lean cursor now rule (some key)).cursor =
        (a.resolve full cursor now rule (some key)).cursor := by
  have hlookup : a.lookup lean now rule key = a.lookup full now rule key := by
    rw [lookup, lookup, h]
  simp only [resolve, hlookup]
  cases a.lookup full now rule key <;> exact ⟨rfl, rfl⟩

theorem resolve_of_none (h : bindings.get? key = none) (cursor : Cursor) :
    (a.resolve bindings cursor now rule (some key)).resolution = ⟨(rule.pick cursor).1, .miss⟩ ∧
      (a.resolve bindings cursor now rule (some key)).cursor = (rule.pick cursor).2 := by
  simp [resolve, lookup, h]

theorem resolve_of_unusable (h : bindings.get? key = some b) (hb : a.isUsable now rule b = false)
    (cursor : Cursor) :
    (a.resolve bindings cursor now rule (some key)).resolution = ⟨(rule.pick cursor).1, .stale⟩ ∧
      (a.resolve bindings cursor now rule (some key)).cursor = (rule.pick cursor).2 := by
  simp [resolve, lookup, h, hb]

/-- What a choice finds under its own key afterwards is what can be honoured. -/
theorem get?_resolve_self :
    (a.resolve bindings cursor now rule (some key)).bindings.get? key =
      (bindings.get? key).filter (a.isUsable now rule) := by
  rcases a.resolve_cases bindings cursor now rule key with
    ⟨b, hfound, husable, -, hleft⟩ | ⟨b, -, -, -, hleft⟩ | ⟨hfound, -, hleft⟩
  · rw [hleft, hfound]
    simp [Option.filter, husable]
  · rw [hleft, get?_dropUnusable, if_pos rfl]
  · rw [hleft, hfound]
    rfl

theorem get?_resolve_of_ne {client : Option String} {other : String} (h : client ≠ some other) :
    (a.resolve bindings cursor now rule client).bindings.get? other = bindings.get? other := by
  rcases get?_resolve cursor client other with hsame | ⟨hkey, -⟩
  · exact hsame
  · exact absurd hkey h

theorem LacksUnusable.resolve (h : a.LacksUnusable now rule full lean) (cursor : Cursor)
    (client : Option String) :
    (a.resolve full cursor now rule client).resolution.Matches
        (a.resolve lean cursor now rule client).resolution ∧
      (a.resolve lean cursor now rule client).cursor =
        (a.resolve full cursor now rule client).cursor ∧
      a.LacksUnusable now rule (a.resolve full cursor now rule client).bindings
        (a.resolve lean cursor now rule client).bindings := by
  cases client with
  | none => exact ⟨.refl _, rfl, h⟩
  | some key =>
      have hkeys : a.LacksUnusable now rule (a.resolve full cursor now rule (some key)).bindings
          (a.resolve lean cursor now rule (some key)).bindings := by
        intro other
        by_cases hother : other = key
        · -- The choice has dropped from both what `lean` may lack.
          subst hother
          rw [get?_resolve_self, get?_resolve_self]
          rcases h other with hsame | ⟨hnone, b, hfull, hunusable⟩
          · exact .inl (by rw [hsame])
          · exact .inl (by simp [hnone, hfull, Option.filter, hunusable])
        · have hne : some key ≠ some other := fun e => hother (Option.some.inj e).symm
          rw [get?_resolve_of_ne hne, get?_resolve_of_ne hne]
          exact h other
      rcases h key with hsame | ⟨hnone, b, hfull, hunusable⟩
      · -- Both find the same binding, or none.
        obtain ⟨hresolution, hcursor⟩ := resolve_congr hsame
        refine ⟨?_, hcursor, hkeys⟩
        rw [hresolution]
        exact .refl _
      · -- One misses where the other drops what it found, and then both ask the rule.
        obtain ⟨hlean, hcursor⟩ := resolve_of_none hnone cursor
        obtain ⟨hstale, hcursor'⟩ := resolve_of_unusable hfull hunusable cursor
        refine ⟨?_, hcursor.trans hcursor'.symm, hkeys⟩
        rw [hlean, hstale]
        exact ⟨rfl, by simp, .inr ⟨rfl, rfl⟩⟩

theorem LacksUnusable.commit (h : a.LacksUnusable now rule full lean) {r r' : Resolution}
    (hr : r.Matches r') (key : String) :
    a.LacksUnusable now rule (Affinity.commit full now key r).1
      (Affinity.commit lean now key r').1 := by
  cases hnew : r.isNew with
  | false =>
      rw [commit_of_not_isNew hnew, commit_of_not_isNew (hr.isNew_eq.trans hnew)]
      exact h
  | true =>
      intro other
      rw [get?_commit_of_isNew hnew, get?_commit_of_isNew (hr.isNew_eq.trans hnew), hr.endpoint]
      by_cases hother : other = key
      · rw [if_pos hother, if_pos hother]
        exact .inl rfl
      · rw [if_neg hother, if_neg hother]
        exact h other

end Affinity

/-! ## Tenures -/

/-- Bindings and choices while one rule is in force. -/
structure Tenure where
  bindings : Bindings
  cursor : Cursor
  now : Nat
  /-- The choices made so far, the latest last. -/
  made : List Resolution := []

namespace Tenure

inductive Act where
  /-- An endpoint is chosen for a client. -/
  | resolve (client : Option String)
  /-- Some choice is committed for a client. -/
  | commit (key : String) (resolution : Resolution)
  /-- One of the choices made is committed for a client, counted from the first. -/
  | commitMade (key : String) (index : Nat)
  | wait (nanos : Nat)

variable (a : Affinity) (rule : Rule)

def record (s : Tenure) (key : String) (r : Resolution) : Tenure :=
  { s with bindings := (Affinity.commit s.bindings s.now key r).1 }

def step (s : Tenure) : Act → Tenure
  | .resolve client =>
    let choice := a.resolve s.bindings s.cursor s.now rule client
    { s with bindings := choice.bindings, cursor := choice.cursor, made := s.made ++ [choice.resolution] }
  | .commit key r => s.record key r
  | .commitMade key index => (s.made[index]?).elim s (s.record key)
  | .wait nanos => { s with now := s.now + nanos }

/-- A tenure after some acts in a row. -/
def run (s : Tenure) (acts : List Act) : Tenure := acts.foldl (step a rule) s

/-- The second tenure lacks at most bindings that cannot be honoured, and has made matching choices. -/
structure InStep (s s' : Tenure) : Prop where
  now : s'.now = s.now
  cursor : s'.cursor = s.cursor
  made : List.Forall₂ Resolution.Matches s.made s'.made
  bindings : a.LacksUnusable s.now rule s.bindings s'.bindings

variable {a rule} {s s' : Tenure}

theorem InStep.record (h : InStep a rule s s') {r r' : Resolution}
    (hr : r.Matches r') (key : String) :
    InStep a rule (s.record key r) (s'.record key r') := by
  refine ⟨h.now, h.cursor, h.made, ?_⟩
  show a.LacksUnusable s.now rule (Affinity.commit s.bindings s.now key r).1
    (Affinity.commit s'.bindings s'.now key r').1
  rw [h.now]
  exact h.bindings.commit hr key

/-- Every act keeps two tenures in step. -/
theorem InStep.step (h : InStep a rule s s') (act : Act) :
    InStep a rule (s.step a rule act) (s'.step a rule act) := by
  cases act with
  | resolve client =>
      obtain ⟨hresolution, hcursor, hbindings⟩ := h.bindings.resolve s.cursor client
      unfold Tenure.step
      rw [h.now, h.cursor]
      exact ⟨rfl, hcursor, List.rel_append h.made (.cons hresolution .nil), hbindings⟩
  | commit key r => exact h.record (.refl r) key
  | commitMade key index =>
      -- as many choices have been made in both, so either both have this one or neither has
      have hlength := h.made.length_eq
      show InStep a rule ((s.made[index]?).elim s (s.record key))
        ((s'.made[index]?).elim s' (s'.record key))
      by_cases hindex : index < s.made.length
      · have hindex' : index < s'.made.length := hlength ▸ hindex
        rw [List.getElem?_eq_getElem hindex, List.getElem?_eq_getElem hindex']
        exact h.record (h.made.get hindex hindex') key
      · rw [List.getElem?_eq_none (by omega), List.getElem?_eq_none (by omega)]
        exact h
  | wait nanos =>
      refine ⟨?_, h.cursor, h.made, h.bindings.mono (Nat.le_add_right s.now nanos)⟩
      show s'.now + nanos = s.now + nanos
      rw [h.now]

theorem InStep.run (h : InStep a rule s s') (acts : List Act) :
    InStep a rule (s.run a rule acts) (s'.run a rule acts) := by
  induction acts generalizing s s' with
  | nil => exact h
  | cons act acts ih => exact ih (h.step act)

/-- What applying a pass prunes cannot be noticed under the rule that is then in force. -/
theorem inStep_apply (r : Router) (next : Selection) (cursor : Cursor) (now : Nat) {rule : Rule}
    (hrule : (r.apply next now).1.state.rule = some rule) :
    InStep r.affinity rule ⟨r.bindings, cursor, now, []⟩
      ⟨(r.apply next now).1.bindings, cursor, now, []⟩ := by
  have hbindings : (r.apply next now).1.bindings =
      r.affinity.prune r.bindings now (r.apply next now).1.state.rule := by
    -- publishing and counting a pass leave the bindings to the pruning after them
    cases ht : r.state.transition next r.strategy <;>
      simp [Router.apply, Router.prune, Router.publish, ht]
  rw [hbindings, hrule]
  exact ⟨rfl, rfl, .nil, r.affinity.lacksUnusable_prune now rule r.bindings⟩

/-- **Pruning is invisible under the installed rule**: whatever is chosen and committed afterwards, and
whenever, the choices are for the same endpoints and are hits in the same places, and differ at most in
that some that would have been stale are misses; the strategy is asked as often, and what can be honoured
in the end is the same. -/
theorem prune_invisible (a : Affinity) (rule : Rule) (bindings : Bindings) (cursor : Cursor) (now : Nat)
    (acts : List Act) :
    let plain := run a rule ⟨bindings, cursor, now, []⟩ acts
    let pruned := run a rule ⟨a.prune bindings now (some rule), cursor, now, []⟩ acts
    List.Forall₂
        (fun r r' : Resolution => r'.endpoint = r.endpoint ∧ (r.outcome = .hit ↔ r'.outcome = .hit) ∧
          (r'.outcome = r.outcome ∨ r.outcome = .stale ∧ r'.outcome = .miss))
        plain.made pruned.made ∧
      pruned.cursor = plain.cursor ∧
      ∀ key, (a.prune pruned.bindings pruned.now (some rule)).get? key =
        (a.prune plain.bindings plain.now (some rule)).get? key := by
  have hstart : InStep a rule ⟨bindings, cursor, now, []⟩
      ⟨a.prune bindings now (some rule), cursor, now, []⟩ :=
    ⟨rfl, rfl, .nil, a.lacksUnusable_prune now rule bindings⟩
  have hend := hstart.run acts
  intro plain pruned
  refine ⟨hend.made.imp fun _ _ h => ⟨h.endpoint, h.hit, h.outcome⟩, hend.cursor, fun key => ?_⟩
  have hnow : pruned.now = plain.now := hend.now
  -- pruning at the end takes from the full tenure what the other lacks
  rw [hnow, Affinity.prune, Affinity.prune, Bindings.get?_keepIf, Bindings.get?_keepIf]
  rcases hend.bindings key with hsame | ⟨hnone, b, hplain, hunusable⟩
  · rw [hsame]
  · simp [pruned, plain, hnone, hplain, Option.filter, hunusable]

end Tenure

end Switchyard
