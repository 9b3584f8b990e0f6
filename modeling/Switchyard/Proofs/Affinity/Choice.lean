/-
What a choice of a backend finds, and what it and a commit leave behind.

A binding can be honoured exactly if its backend belongs to the rule and it is younger than bindings may
get (`isUsable_iff`).  `resolve_cases` says everything a choice can come to; from it follow when it is a
hit (`resolution_eq_hit_iff`) and that it touches no key but its own, and that one only where its binding
cannot be honoured (`get?_resolve`).  A commit binds the key of a choice that is new
(`get?_commit_of_isNew`), and otherwise changes nothing.
-/
import Switchyard.Affinity

namespace Switchyard

namespace Affinity

variable {a : Affinity} {bindings : Bindings} {now : Nat} {rule : Rule} {key : String}

theorem isUsable_iff {b : Binding} :
    a.isUsable now rule b = true ↔
      rule.contains b.endpoint = true ∧ ∀ ttl, a.ttl = some ttl → now - b.boundAt < ttl.nanos := by
  rw [isUsable, isExpired, Bool.and_eq_true, Bool.not_eq_true']
  cases a.ttl with
  | none => simp
  | some ttl => simp

/-- A removal touches no other key, and its own only where the binding cannot be honoured. -/
theorem get?_dropUnusable (other : String) :
    (a.dropUnusable bindings now rule key).get? other =
      if other = key then (bindings.get? key).filter (a.isUsable now rule) else bindings.get? other := by
  rw [dropUnusable, Bindings.get?_removeIf]
  by_cases h : other = key
  · subst h
    simp
  · have hne : (other == key) = false := by simpa using h
    rw [if_neg h, hne]
    cases bindings.get? other <;> rfl

/-- What is found after a removal was there before. -/
theorem get?_of_dropUnusable {other : String} {b : Binding}
    (h : (a.dropUnusable bindings now rule key).get? other = some b) :
    bindings.get? other = some b := by
  rw [get?_dropUnusable] at h
  by_cases hk : other = key
  · rw [if_pos hk, Option.filter_eq_some_iff] at h
    rw [hk]
    exact h.1
  · rw [if_neg hk] at h
    exact h

/-! ## Choices -/

/-- A client with a binding that can be honoured is sent where it is bound; otherwise the rule is asked,
and a binding that cannot be honoured is dropped. -/
theorem resolve_cases (bindings : Bindings) (cursor : Cursor) (now : Nat) (rule : Rule)
    (key : String) :
    (∃ b, bindings.get? key = some b ∧ a.isUsable now rule b = true ∧
      (a.resolve bindings cursor now rule (some key)).resolution = ⟨b.endpoint, .hit⟩ ∧
      (a.resolve bindings cursor now rule (some key)).bindings = bindings) ∨
    (∃ b, bindings.get? key = some b ∧ a.isUsable now rule b = false ∧
      (a.resolve bindings cursor now rule (some key)).resolution = ⟨(rule.pick cursor).1, .stale⟩ ∧
      (a.resolve bindings cursor now rule (some key)).bindings =
        a.dropUnusable bindings now rule key) ∨
    (bindings.get? key = none ∧
      (a.resolve bindings cursor now rule (some key)).resolution = ⟨(rule.pick cursor).1, .miss⟩ ∧
      (a.resolve bindings cursor now rule (some key)).bindings = bindings) := by
  cases hfound : bindings.get? key with
  | none =>
    refine Or.inr (Or.inr ⟨rfl, ?_⟩)
    simp [resolve, lookup, hfound]
  | some b =>
    cases husable : a.isUsable now rule b with
    | true =>
      refine Or.inl ⟨b, rfl, husable, ?_⟩
      simp [resolve, lookup, hfound, husable]
    | false =>
      refine Or.inr (Or.inl ⟨b, rfl, husable, ?_⟩)
      simp [resolve, lookup, hfound, husable]

/-- A choice is a hit exactly if its key has a binding that can be honoured, and it is then for the
endpoint of that binding. -/
theorem resolution_eq_hit_iff {cursor : Cursor} {e : Endpoint} :
    (a.resolve bindings cursor now rule (some key)).resolution = ⟨e, .hit⟩ ↔
      ∃ b, bindings.get? key = some b ∧ a.isUsable now rule b = true ∧ b.endpoint = e := by
  rcases a.resolve_cases bindings cursor now rule key with
    ⟨b, hfound, husable, hresolution, -⟩ | ⟨b, hfound, hunusable, hresolution, -⟩ |
    ⟨hfound, hresolution, -⟩
  · simp [hresolution, hfound, husable]
  · simp [hresolution, hfound, hunusable]
  · simp [hresolution, hfound]

/-- A choice touches no key but its own, and that one only where its binding cannot be honoured. -/
theorem get?_resolve (cursor : Cursor) (client : Option String) (other : String) :
    (a.resolve bindings cursor now rule client).bindings.get? other = bindings.get? other ∨
      (client = some other ∧
        (a.resolve bindings cursor now rule client).bindings.get? other = none ∧
        ∃ b, bindings.get? other = some b ∧ a.isUsable now rule b = false) := by
  cases client with
  | none => exact Or.inl rfl
  | some key =>
    rcases a.resolve_cases bindings cursor now rule key with
      ⟨-, -, -, -, hleft⟩ | ⟨b, hfound, hunusable, -, hleft⟩ | ⟨-, -, hleft⟩
    · exact Or.inl (by rw [hleft])
    · rw [hleft, get?_dropUnusable]
      by_cases h : other = key
      · subst h
        right
        simp [hfound, hunusable]
      · exact Or.inl (if_neg h)
    · exact Or.inl (by rw [hleft])

/-- Only the choice for a client with a key can be new. -/
theorem exists_key_of_isNew {cursor : Cursor} {client : Option String}
    (h : (a.resolve bindings cursor now rule client).resolution.isNew = true) :
    ∃ key, client = some key := by
  cases client with
  | none => cases h
  | some key => exact ⟨key, rfl⟩

/-- A choice that is not new leaves the bindings alone. -/
theorem bindings_resolve_of_not_isNew {cursor : Cursor} {client : Option String}
    (h : (a.resolve bindings cursor now rule client).resolution.isNew = false) :
    (a.resolve bindings cursor now rule client).bindings = bindings := by
  cases client with
  | none => rfl
  | some key =>
    rcases a.resolve_cases bindings cursor now rule key with
      ⟨-, -, -, -, hleft⟩ | ⟨-, -, -, hresolution, -⟩ | ⟨-, -, hleft⟩
    · exact hleft
    · rw [hresolution] at h
      cases h
    · exact hleft

/-! ## Commits -/

/-- A choice that is new binds its key, and no other. -/
theorem get?_commit_of_isNew {r : Resolution} (h : r.isNew = true) (bindings : Bindings) (now : Nat)
    (key other : String) :
    (commit bindings now key r).1.get? other =
      if other = key then some ⟨r.endpoint, now⟩ else bindings.get? other := by
  rw [commit, if_pos h]
  exact bindings.get?_insert key other ⟨r.endpoint, now⟩

/-- Committing any other choice changes nothing. -/
theorem commit_of_not_isNew {r : Resolution} (h : r.isNew = false) (bindings : Bindings) (now : Nat)
    (key : String) : commit bindings now key r = (bindings, []) := by
  rw [commit, h]
  rfl

end Affinity

end Switchyard
