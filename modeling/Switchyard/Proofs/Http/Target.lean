/-
Targets and their parts.

What is read of a path and a query is everything before a fragment (`eq_takeWhile_of_readTarget`), and a
target put together from parts has just these parts (`eq_of_build`).  So a target that is pointed at an
endpoint keeps its path and its query (`Endpoint.retarget_keeps`).
-/
import Mathlib.Data.List.TakeWhile
import Switchyard.Endpoint
import Switchyard.Proofs.Except

namespace Switchyard

namespace Http.Uri

/-! ## Path and query -/

/-- A list that starts with what is kept, and goes on with what is read of the rest. -/
theorem cons_eq_takeWhile {c : Char} {cs target : List Char} {rest : Except UriError (List Char)}
    (hc : c ≠ '#') (h : rest.map (c :: ·) = .ok target)
    (hrest : ∀ read, rest = .ok read → read = cs.takeWhile (· ≠ '#')) :
    target = (c :: cs).takeWhile (· ≠ '#') := by
  obtain ⟨read, hread, rfl⟩ := exists_of_map_eq_ok h
  rw [List.takeWhile_cons_of_pos (by simpa using hc), ← hrest read hread]

theorem eq_takeWhile_of_readQueryChars {cs query : List Char} (h : readQueryChars cs = .ok query) :
    query = cs.takeWhile (· ≠ '#') := by
  induction cs generalizing query with
  | nil =>
    cases h
    rfl
  | cons c cs ih =>
    rw [readQueryChars] at h
    split at h
    · rename_i hc
      cases h
      rw [hc]
      rfl
    · rename_i hc
      split at h
      · exact cons_eq_takeWhile hc h fun _ => ih
      · cases h

/-- What is read is everything before a fragment. -/
theorem eq_takeWhile_of_readTarget {cs target : List Char} (h : readTarget cs = .ok target) :
    target = cs.takeWhile (· ≠ '#') := by
  induction cs generalizing target with
  | nil =>
    cases h
    rfl
  | cons c cs ih =>
    rw [readTarget] at h
    split at h
    · rename_i hc
      rw [hc]
      exact cons_eq_takeWhile (by decide) h fun _ => eq_takeWhile_of_readQueryChars
    · split at h
      · rename_i hc
        cases h
        rw [hc]
        rfl
      · rename_i hc
        split at h
        · exact cons_eq_takeWhile hc h fun _ => ih
        · cases h

/-! ## Targets put together -/

theorem eq_of_checkScheme {cs scheme : List Char} (h : checkScheme cs = .ok scheme) : scheme = cs := by
  rw [checkScheme] at h
  split at h
  · exact (Except.ok.inj h).symm
  · split at h
    · cases h
    · split at h
      · exact (Except.ok.inj h).symm
      · cases h

/-- What follows an authority starts where it ends. -/
theorem append_of_spanAuthority {cs authority rest : List Char}
    (h : spanAuthority cs = .ok (authority, rest)) : authority ++ rest = cs := by
  simp only [spanAuthority, bind, Except.bind, pure, Except.pure] at h
  split at h
  · cases h
  · split at h
    · cases h
    · obtain ⟨rfl, rfl⟩ := Prod.mk.inj (Except.ok.inj h)
      rw [← List.prefix_iff_eq_append]
      exact List.takeWhile_prefix _

/-- An authority that is accepted fills its text. -/
theorem eq_of_checkAuthority {cs authority : List Char} (h : checkAuthority cs = .ok authority) :
    authority = cs := by
  simp only [checkAuthority, bind, Except.bind, pure, Except.pure, throw, throwThe,
    MonadExceptOf.throw] at h
  split at h
  · cases h
  · split at h
    · cases h
    · -- with nothing left after it, the authority is the whole text
      rename_i x hspan
      split at h
      · rename_i hrest
        have happend := append_of_spanAuthority hspan
        rw [List.isEmpty_iff.1 hrest, List.append_nil, Except.ok.inj h] at happend
        exact happend
      · cases h

theorem eq_of_build {scheme authority target : List Char} {u : Uri}
    (h : build scheme authority target = .ok u) :
    u.scheme = some scheme ∧ u.authority = authority ∧ u.target = target.takeWhile (· ≠ '#') := by
  simp only [build, bind, Except.bind, pure, Except.pure] at h
  split at h
  · cases h
  · -- both checks hand back what they were given
    rename_i s hscheme
    split at h
    · cases h
    · rename_i a hauthority
      split at h
      · cases h
      · rename_i t htarget
        rw [← Except.ok.inj h, eq_of_checkScheme hscheme, eq_of_checkAuthority hauthority,
          eq_takeWhile_of_readTarget htarget]
        exact ⟨rfl, rfl, rfl⟩

/-! ## Targets as they are received -/

/-- There is no fragment, and nothing follows an authority that stands alone. -/
structure IsWellFormed (u : Uri) : Prop where
  noFragment : '#' ∉ u.target
  authorityAlone : u.scheme = none → u.authority ≠ [] → u.target = []

theorem noFragment_takeWhile (cs : List Char) : '#' ∉ cs.takeWhile (· ≠ '#') := by
  intro hmem
  have hkept := List.all_eq_true.1 List.all_takeWhile _ hmem
  simp at hkept

theorem takeWhile_of_noFragment {cs : List Char} (h : '#' ∉ cs) : cs.takeWhile (· ≠ '#') = cs := by
  rw [List.takeWhile_eq_self_iff]
  intro c hc
  have hne : c ≠ '#' := fun hfragment => h (hfragment ▸ hc)
  simpa using hne

/-- Where there is neither path nor query, what is sent on is `/`. -/
theorem IsWellFormed.getD_pathAndQuery? {u : Uri} (h : u.IsWellFormed) :
    u.pathAndQuery?.getD ['/'] = if u.target = [] then ['/'] else u.target := by
  rw [pathAndQuery?]
  by_cases hfull : u.scheme.isSome ∨ u.authority.isEmpty
  · rw [if_pos hfull]
    simp
  · -- an authority that stands alone is all there is
    rw [not_or, Option.not_isSome_iff_eq_none, List.isEmpty_iff] at hfull
    have halone := h.authorityAlone hfull.1 hfull.2
    rw [if_pos halone]
    simp [hfull]

end Http.Uri

/-! ## Targets pointed at an endpoint -/

/-- A target that is pointed at an endpoint keeps its path and its query; one without a path gets `/`. -/
theorem Endpoint.retarget_keeps {e : Endpoint} {u v : Http.Uri} (hu : u.IsWellFormed)
    (h : e.retarget u = .ok v) :
    v.path = (if u.path = [] then ['/'] else u.path) ∧ v.query? = u.query? := by
  rw [Endpoint.retarget, hu.getD_pathAndQuery?] at h
  obtain ⟨-, -, htarget⟩ := Http.Uri.eq_of_build h
  by_cases hempty : u.target = []
  · rw [if_pos hempty] at htarget
    have hslash : v.target = ['/'] := htarget
    have hpath : v.path = ['/'] := by simp [Http.Uri.path, Http.Uri.rawPath, hslash]
    refine ⟨?_, ?_⟩
    · -- without a path of its own the target has none, or `/` after its scheme
      rw [hpath, Http.Uri.path, Http.Uri.rawPath, hempty]
      cases u.scheme <;> rfl
    · rw [Http.Uri.query?, Http.Uri.query?, hslash, hempty]
      rfl
  · have hsame : v.target = u.target := by
      rw [if_neg hempty] at htarget
      rw [htarget, Http.Uri.takeWhile_of_noFragment hu.noFragment]
    have hpath : v.path = u.path := by
      simp [Http.Uri.path, Http.Uri.rawPath, hsame, hempty]
    refine ⟨?_, ?_⟩
    · have hsome : u.path ≠ [] := by
        rw [Http.Uri.path, if_neg (fun h => hempty (List.isEmpty_iff.1 h.1))]
        split
        · exact List.cons_ne_nil _ _
        · rename_i hraw
          exact fun h => hraw (List.isEmpty_iff.2 h)
      rw [hpath, if_neg hsome]
    · rw [Http.Uri.query?, Http.Uri.query?, hsame]

end Switchyard
