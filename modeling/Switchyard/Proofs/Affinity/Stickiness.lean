/-
Affinity is sound and sticky.

A `Provider` holds the bindings while time passes, and is moved by the steps of any choices, commits and
prunes in any order.  The lookup of a choice and the removal after it are moves of their own, so that
commits of others may come between them; with nothing between them they are the whole choice
(`get?_look_drop`).

What is bound is what the latest commit bound (`exists_commit_of_get?`), and it stays so as long as nothing
that comes after it gives a reason to drop it (`get?_run_of_spares`).  Both follow from what one move can
do to one key.
-/
import Mathlib.Data.List.Induction
import Switchyard.Proofs.Affinity.Choice

namespace Switchyard

/-- The bindings at some time. -/
structure Provider where
  bindings : Bindings := Bindings.empty
  now : Nat

namespace Provider

/-! ## Moves -/

inductive Move where
  /-- A choice looks its key up. -/
  | look (key : String) (rule : Rule)
  /-- A choice drops the binding of its key, unless that can be honoured by now. -/
  | drop (key : String) (rule : Rule)
  | commit (key : String) (resolution : Resolution)
  | prune (rule : Option Rule)
  | wait (nanos : Nat)

/-- The move binds the key. -/
def Move.Records (key : String) : Move → Prop
  | commit k r => k = key ∧ r.isNew = true
  | _ => False

/-- The move gives no reason to drop or to replace a binding of the key to the endpoint, other than its
age. -/
def Move.Spares (key : String) (e : Endpoint) : Move → Prop
  | look _ _ | wait _ => True
  | drop k rule => k = key → rule.contains e = true
  | commit k r => k = key → r.isNew = false
  | prune none => False
  | prune (some rule) => rule.contains e = true

variable (a : Affinity)

def step (s : Provider) : Move → Provider
  | .look _ _ => s
  | .drop key rule => { s with bindings := a.dropUnusable s.bindings s.now rule key }
  | .commit key r => { s with bindings := (Affinity.commit s.bindings s.now key r).1 }
  | .prune rule => { s with bindings := a.prune s.bindings s.now rule }
  | .wait nanos => { s with now := s.now + nanos }

/-- The provider after some moves in a row. -/
def run (s : Provider) (moves : List Move) : Provider := moves.foldl (step a) s

/-- The provider after some moves in a row, with nothing bound before them. -/
def after (start : Nat) (moves : List Move) : Provider := run a { now := start } moves

theorem run_snoc (s : Provider) (moves : List Move) (m : Move) :
    s.run a (moves ++ [m]) = (s.run a moves).step a m := by
  rw [run, List.foldl_append]
  rfl

theorem now_le_step (s : Provider) (m : Move) : s.now ≤ (s.step a m).now := by
  cases m with
  | wait nanos => exact Nat.le_add_right s.now nanos
  | _ => exact Nat.le_refl s.now

variable {a} {s : Provider} {m : Move} {key : String} {b : Binding}

/-! ## One move -/

/-- What is bound after a move was bound by it, or had been bound before and is not bound anew. -/
theorem get?_step (h : (s.step a m).bindings.get? key = some b) :
    (∃ r, m = .commit key r ∧ r.isNew = true ∧ b = ⟨r.endpoint, s.now⟩) ∨
      (¬ m.Records key ∧ s.bindings.get? key = some b) := by
  cases m with
  | look k rule => exact Or.inr ⟨id, h⟩
  | wait nanos => exact Or.inr ⟨id, h⟩
  | drop k rule => exact Or.inr ⟨id, Affinity.get?_of_dropUnusable h⟩
  | prune rule =>
    refine Or.inr ⟨id, ?_⟩
    cases rule with
    | none => cases h
    | some rule =>
      rw [step, Affinity.prune, Bindings.get?_keepIf, Option.filter_eq_some_iff] at h
      exact h.1
  | commit k r =>
    rw [step] at h
    cases hnew : r.isNew with
    | false =>
      rw [Affinity.commit_of_not_isNew hnew] at h
      refine Or.inr ⟨?_, h⟩
      rintro ⟨-, hrecords⟩
      rw [hnew] at hrecords
      cases hrecords
    | true =>
      rw [Affinity.get?_commit_of_isNew hnew] at h
      by_cases hk : key = k
      · subst hk
        rw [if_pos rfl] at h
        exact Or.inl ⟨r, rfl, hnew, (Option.some.inj h).symm⟩
      · rw [if_neg hk] at h
        exact Or.inr ⟨fun hrecords => hk hrecords.1.symm, h⟩

/-- A move that gives no reason to drop a binding leaves it, as long as it has not expired. -/
theorem get?_step_of_spares (hb : s.bindings.get? key = some b) (hm : m.Spares key b.endpoint)
    (hage : ∀ ttl, a.ttl = some ttl → s.now - b.boundAt < ttl.nanos) :
    (s.step a m).bindings.get? key = some b := by
  cases m with
  | look k rule => exact hb
  | wait nanos => exact hb
  | drop k rule =>
    rw [step, Affinity.get?_dropUnusable]
    by_cases hk : key = k
    · subst hk
      rw [if_pos rfl, hb, Option.filter_eq_some_iff]
      exact ⟨rfl, Affinity.isUsable_iff.2 ⟨hm rfl, hage⟩⟩
    · rw [if_neg hk]
      exact hb
  | prune rule =>
    cases rule with
    | none => cases hm
    | some rule =>
      rw [step, Affinity.prune, Bindings.get?_keepIf, hb, Option.filter_eq_some_iff]
      exact ⟨rfl, Affinity.isUsable_iff.2 ⟨hm, hage⟩⟩
  | commit k r =>
    rw [step]
    cases hnew : r.isNew with
    | false =>
      rw [Affinity.commit_of_not_isNew hnew]
      exact hb
    | true =>
      -- a commit that is new is for another key
      have hk : key ≠ k := by
        rintro rfl
        rw [hm rfl] at hnew
        cases hnew
      rw [Affinity.get?_commit_of_isNew hnew, if_neg hk]
      exact hb

/-- A choice that is new binds its key when it is committed. -/
theorem get?_step_commit {r : Resolution} (h : r.isNew = true) :
    (s.step a (.commit key r)).bindings.get? key = some ⟨r.endpoint, s.now⟩ := by
  rw [step, Affinity.get?_commit_of_isNew h, if_pos rfl]

/-- A choice made in one go is its lookup with the removal right after it. -/
theorem get?_look_drop (s : Provider) (cursor : Cursor) (rule : Rule) (key other : String) :
    ((s.step a (.look key rule)).step a (.drop key rule)).bindings.get? other =
      (a.resolve s.bindings cursor s.now rule (some key)).bindings.get? other := by
  show (a.dropUnusable s.bindings s.now rule key).get? other = _
  rcases a.resolve_cases s.bindings cursor s.now rule key with
    ⟨b, hfound, husable, -, hleft⟩ | ⟨-, -, -, -, hleft⟩ | ⟨hfound, -, hleft⟩
  · -- the removal spares a binding that can be honoured
    rw [hleft, Affinity.get?_dropUnusable]
    by_cases h : other = key
    · subst h
      rw [if_pos rfl, hfound, Option.filter_eq_some_iff]
      exact ⟨rfl, husable⟩
    · exact if_neg h
  · rw [hleft]
  · -- and it finds nothing where the lookup has found nothing
    rw [hleft, Affinity.get?_dropUnusable]
    by_cases h : other = key
    · subst h
      rw [if_pos rfl, hfound]
      rfl
    · exact if_neg h

/-! ## Runs -/

/-- What is bound after some moves is what the latest commit for its key has bound. -/
theorem exists_commit_of_get? {start : Nat} {moves : List Move}
    (h : (after a start moves).bindings.get? key = some b) :
    ∃ before later r, moves = before ++ .commit key r :: later ∧ r.isNew = true ∧
      (∀ m ∈ later, ¬ m.Records key) ∧ b = ⟨r.endpoint, (after a start before).now⟩ := by
  -- induction on the moves: the last one has bound the key, or what came before it has
  induction moves using List.reverseRecOn with
  | nil => cases h
  | append_singleton moves m ih =>
    rw [after, run_snoc] at h
    rcases get?_step h with ⟨r, rfl, hnew, hb⟩ | ⟨hrecords, hbound⟩
    · refine ⟨moves, [], r, rfl, hnew, ?_, hb⟩
      intro m hm
      cases hm
    · obtain ⟨before, later, r, rfl, hnew, hlatest, hb⟩ := ih hbound
      refine ⟨before, later ++ [m], r, by simp, hnew, ?_, hb⟩
      intro other hother
      rcases List.mem_append.1 hother with hother | hother
      · exact hlatest other hother
      · rw [List.mem_singleton.1 hother]
        exact hrecords

/-- A binding stays as long as no move gives a reason to drop it and it has not expired. -/
theorem get?_run_of_spares {moves : List Move} (hb : s.bindings.get? key = some b)
    (hmoves : ∀ m ∈ moves, m.Spares key b.endpoint)
    (hage : ∀ ttl, a.ttl = some ttl → (s.run a moves).now - b.boundAt < ttl.nanos) :
    (s.run a moves).bindings.get? key = some b := by
  induction moves using List.reverseRecOn with
  | nil => exact hb
  | append_singleton moves m ih =>
    rw [run_snoc] at hage ⊢
    -- the binding was no older before the last move than it is after it
    have hbefore : ∀ ttl, a.ttl = some ttl → (s.run a moves).now - b.boundAt < ttl.nanos := by
      intro ttl httl
      have hlater := now_le_step a (s.run a moves) m
      have hyoung := hage ttl httl
      omega
    have hothers : ∀ other ∈ moves, other.Spares key b.endpoint := by
      intro other hother
      exact hmoves other (List.mem_append_left _ hother)
    exact get?_step_of_spares (ih hothers hbefore) (hmoves m (by simp)) hbefore

/-- A choice that has bound a key, and everything that came before and after. -/
theorem after_commit (start : Nat) (before later : List Move) (r : Resolution) :
    after a start (before ++ .commit key r :: later) =
      ((after a start before).step a (.commit key r)).run a later := by
  rw [after, run, List.foldl_append]
  rfl

/-- **Affinity is sound and sticky.**  Whatever moves a provider has seen: a hit is for the endpoint that
the latest commit bound its key to, which belongs to the rule, and that commit is less than the lifetime
of a binding ago.  Conversely, once a key is bound to an endpoint, every choice for it under a rule with
that endpoint is a hit for it, as long as less than the lifetime has passed, nothing else was bound to the
key, and every rule that anything was pruned or dropped by held the endpoint.  Committing a hit, or the
choice for a client without a key, changes nothing.  With nothing between its two moves, a choice leaves
what is left when it is made in one go. -/
theorem sound_and_sticky (a : Affinity) (start : Nat) (moves : List Move) :
    (∀ cursor rule key e,
      (a.resolve (after a start moves).bindings cursor (after a start moves).now rule
        (some key)).resolution = ⟨e, .hit⟩ →
      ∃ before later r, moves = before ++ .commit key r :: later ∧ r.isNew = true ∧
        (∀ m ∈ later, ¬ m.Records key) ∧ r.endpoint = e ∧ rule.contains e = true ∧
        ∀ ttl, a.ttl = some ttl →
          (after a start moves).now - (after a start before).now < ttl.nanos) ∧
    (∀ before later key r, moves = before ++ .commit key r :: later → r.isNew = true →
      (∀ m ∈ later, m.Spares key r.endpoint) →
      ∀ cursor rule, rule.contains r.endpoint = true →
        (∀ ttl, a.ttl = some ttl →
          (after a start moves).now - (after a start before).now < ttl.nanos) →
        (a.resolve (after a start moves).bindings cursor (after a start moves).now rule
          (some key)).resolution = ⟨r.endpoint, .hit⟩) ∧
    (∀ bindings now key (r : Resolution), r.outcome = .hit ∨ r.outcome = .unbound →
      Affinity.commit bindings now key r = (bindings, [])) ∧
    ∀ cursor rule key other,
      (after a start (moves ++ [.look key rule, .drop key rule])).bindings.get? other =
        (a.resolve (after a start moves).bindings cursor (after a start moves).now rule
          (some key)).bindings.get? other := by
  refine ⟨?_, ?_, ?_, ?_⟩
  · intro cursor rule key e hhit
    obtain ⟨b, hbound, husable, he⟩ := Affinity.resolution_eq_hit_iff.1 hhit
    obtain ⟨before, later, r, hmoves, hnew, hlatest, rfl⟩ := exists_commit_of_get? hbound
    obtain ⟨hcontains, hage⟩ := Affinity.isUsable_iff.1 husable
    rw [he] at hcontains
    exact ⟨before, later, r, hmoves, hnew, hlatest, he, hcontains, hage⟩
  · intro before later key r hmoves hnew hspares cursor rule hcontains hage
    rw [hmoves, after_commit] at hage ⊢
    have hbound := get?_run_of_spares (get?_step_commit hnew) hspares hage
    exact Affinity.resolution_eq_hit_iff.2
      ⟨_, hbound, Affinity.isUsable_iff.2 ⟨hcontains, hage⟩, rfl⟩
  · intro bindings now key r hr
    have hold : r.isNew = false := by
      rcases hr with hr | hr <;> rw [Resolution.isNew, hr]
    exact Affinity.commit_of_not_isNew hold bindings now key
  · intro cursor rule key other
    rw [after, run, List.foldl_append]
    exact (after a start moves).get?_look_drop cursor rule key other

/-- One of two backends. -/
def north : Endpoint := { scheme := "http", authority := "north:80" }

/-- Two backends in turn. -/
def bothEnds : Rule :=
  { selection := [north, { scheme := "http", authority := "south:80" }]
    strategy := .roundRobin
    selection_ne_nil := by simp }

/-- Bindings last a minute. -/
def aMinute : Affinity := ⟨[.sourceAddress], some (.ofSeconds 60)⟩

/-- A client is bound, and half a minute later a hit is committed for it and the bindings are pruned. -/
def halfway : List Provider.Move :=
  [.commit "client" ⟨north, .miss⟩, .wait 30000000000, .look "client" bothEnds,
   .commit "client" ⟨north, .hit⟩, .drop "client" bothEnds, .prune (some bothEnds), .wait 29999999999]

/-- Just before the minute is over the client is still sent where it was bound. -/
theorem sound_and_sticky_halfway :
    (aMinute.resolve (after aMinute 0 halfway).bindings { turns := 1 } (after aMinute 0 halfway).now bothEnds
      (some "client")).resolution = ⟨north, .hit⟩ ∧
    ∃ before later r, halfway = before ++ .commit "client" r :: later ∧ r.isNew = true ∧
      (∀ m ∈ later, ¬ m.Records "client") ∧ r.endpoint = north := by
  obtain ⟨hsound, hsticky, -⟩ := sound_and_sticky aMinute 0 halfway
  have hspares : ∀ m ∈ halfway.tail, m.Spares "client" north := by
    intro m hm
    simp only [halfway, List.tail_cons, List.mem_cons, List.not_mem_nil, or_false] at hm
    rcases hm with rfl | rfl | rfl | rfl | rfl | rfl
    · trivial
    · trivial
    · exact fun _ => rfl
    · exact fun _ => rfl
    · rfl
    · trivial
  have hhit := hsticky [] halfway.tail "client" ⟨north, .miss⟩ rfl rfl hspares { turns := 1 } bothEnds rfl (by
    intro ttl httl
    rw [← Option.some.inj httl]
    decide)
  obtain ⟨before, later, r, hmoves, hnew, hlatest, he, -⟩ := hsound { turns := 1 } bothEnds "client" north hhit
  exact ⟨hhit, before, later, r, hmoves, hnew, hlatest, he⟩

end Provider

end Switchyard
