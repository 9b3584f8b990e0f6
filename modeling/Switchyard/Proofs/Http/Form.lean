/-
The forms of a target.

A target is a path, `*`, a scheme and an authority with a path and a query or without them, or an authority
alone.  `IsTarget` says so of its parts.  Whatever is read from a text is in one of these forms
(`isTarget_of_parse`), and what is sent on of it, its path and query, is read as it stands
(`IsTarget.readTarget_sent`).
-/
import Switchyard.Proofs.Http.Target

namespace Switchyard.Http.Uri

variable {cs target scheme authority : List Char} {u : Uri}

/-! ## Reading again -/

theorem readQueryChars_of_ok {query : List Char} (h : readQueryChars cs = .ok query) :
    readQueryChars query = .ok query := by
  induction cs generalizing query with
  | nil =>
    cases h
    rfl
  | cons c cs ih =>
    rw [readQueryChars] at h
    split at h
    · cases h
      rfl
    · rename_i hc
      split at h
      · rename_i hchar
        obtain ⟨query, hquery, rfl⟩ := exists_of_map_eq_ok h
        rw [readQueryChars, if_neg hc, if_pos hchar, ih hquery]
        rfl
      · cases h

/-- What was read is read as it stands. -/
theorem readTarget_of_ok (h : readTarget cs = .ok target) : readTarget target = .ok target := by
  induction cs generalizing target with
  | nil =>
    cases h
    rfl
  | cons c cs ih =>
    rw [readTarget] at h
    split at h
    · obtain ⟨query, hquery, rfl⟩ := exists_of_map_eq_ok h
      rw [readTarget, if_pos rfl, readQueryChars_of_ok hquery]
      rfl
    · rename_i hquestion
      split at h
      · cases h
        rfl
      · rename_i hc
        split at h
        · rename_i hchar
          obtain ⟨target, htarget, rfl⟩ := exists_of_map_eq_ok h
          rw [readTarget, if_neg hquestion, if_neg hc, if_pos hchar, ih htarget]
          rfl
        · cases h

/-! ## Forms -/

/-- An authority alone. -/
def IsAuthority (u : Uri) : Prop := u.scheme = none ∧ u.authority ≠ []

instance (u : Uri) : Decidable u.IsAuthority := inferInstanceAs (Decidable (_ ∧ _))

/-- A target in one of its forms.  Path and query are read as they stand; where there is no scheme, an
authority stands alone, and else there is a path or `*`. -/
structure IsTarget (u : Uri) : Prop where
  reads : readTarget u.target = .ok u.target
  alone : u.scheme = none → (u.authority ≠ [] ↔ u.target = [])

theorem isTarget_of_scheme (h : readTarget cs = .ok target) :
    IsTarget ⟨some scheme, authority, target⟩ :=
  ⟨readTarget_of_ok h, fun hnone => by cases hnone⟩

theorem isTarget_authority (h : authority ≠ []) : IsTarget ⟨none, authority, []⟩ :=
  ⟨rfl, fun _ => iff_of_true h rfl⟩

theorem isTarget_of_parseFull (hne : cs ≠ []) (h : parseFull cs = .ok u) : u.IsTarget := by
  rw [parseFull] at h
  split at h
  · split at h
    · cases h
    · obtain ⟨⟨authority, rest⟩, -, h⟩ := exists_of_bind_eq_ok h
      dsimp only at h
      split at h
      · cases h
      · obtain ⟨target, htarget, h⟩ := exists_of_bind_eq_ok h
        cases h
        exact isTarget_of_scheme htarget
  · obtain ⟨⟨authority, rest⟩, hspan, h⟩ := exists_of_bind_eq_ok h
    dsimp only at h
    split at h
    · -- with nothing left the authority is the whole text
      rename_i hrest
      cases h
      refine isTarget_authority ?_
      rintro rfl
      have happend := append_of_spanAuthority hspan
      rw [List.isEmpty_iff.1 hrest] at happend
      exact hne happend.symm
    · cases h

/-- **What is read from a text is a target.** -/
theorem isTarget_of_parse (h : parse cs = .ok u) : u.IsTarget := by
  unfold parse at h
  split at h
  · cases h
  · -- nothing, `*`, a path, a single character of an authority, and everything else
    split at h
    · cases h
    · cases h
      exact ⟨rfl, fun _ => iff_of_false (fun hne => hne rfl) (List.cons_ne_nil _ _)⟩
    · obtain ⟨target, htarget, rfl⟩ := exists_of_map_eq_ok h
      refine ⟨readTarget_of_ok htarget, fun _ => iff_of_false (fun hne => hne rfl) ?_⟩
      rw [eq_takeWhile_of_readTarget htarget, List.takeWhile_cons_of_pos (by decide)]
      exact List.cons_ne_nil _ _
    · obtain ⟨authority, hauthority, rfl⟩ := exists_of_map_eq_ok h
      rw [eq_of_checkAuthority hauthority]
      exact isTarget_authority (List.cons_ne_nil _ _)
    · rename_i hempty _ _ _
      exact isTarget_of_parseFull hempty h

theorem IsTarget.isWellFormed (h : u.IsTarget) : u.IsWellFormed where
  noFragment := by
    rw [eq_takeWhile_of_readTarget h.reads]
    exact noFragment_takeWhile _
  authorityAlone hscheme hauthority := (h.alone hscheme).1 hauthority

theorem isWellFormed_of_parse (h : parse cs = .ok u) : u.IsWellFormed := (isTarget_of_parse h).isWellFormed

/-- A target without any part. -/
def bare : Uri := ⟨none, [], []⟩

/-- Only an authority alone has no path, and a target without any part. -/
theorem IsWellFormed.path_eq_nil_iff (h : u.IsWellFormed) : u.path = [] ↔ u.IsAuthority ∨ u = bare := by
  have hraw : (if u.rawPath.isEmpty then ['/'] else u.rawPath) ≠ [] := by
    split
    · exact List.cons_ne_nil _ _
    · rename_i hraw
      exact fun hnil => hraw (List.isEmpty_iff.2 hnil)
  have hpath : u.path = [] ↔ u.target.isEmpty ∧ u.scheme.isNone := by
    rw [path]
    split
    · rename_i hnone
      exact iff_of_true rfl hnone
    · rename_i hsome
      exact iff_of_false hraw hsome
  rw [hpath, List.isEmpty_iff, Option.isNone_iff_eq_none]
  constructor
  · rintro ⟨htarget, hscheme⟩
    by_cases hauthority : u.authority = []
    · obtain ⟨scheme, authority, target⟩ := u
      cases htarget
      cases hscheme
      cases hauthority
      exact Or.inr rfl
    · exact Or.inl ⟨hscheme, hauthority⟩
  · rintro (⟨hscheme, hauthority⟩ | rfl)
    · exact ⟨h.authorityAlone hscheme hauthority, hscheme⟩
    · exact ⟨rfl, rfl⟩

/-! ## What is sent on -/

/-- The path and query that are sent on of a target. -/
def sent (u : Uri) : List Char := u.pathAndQuery?.getD ['/']

theorem sent_ne_nil (u : Uri) : u.sent ≠ [] := by
  rw [sent, pathAndQuery?]
  split
  · rw [Option.getD_some]
    split
    · exact List.cons_ne_nil _ _
    · rename_i hne
      exact fun hnil => hne (List.isEmpty_iff.2 hnil)
  · exact List.cons_ne_nil _ _

/-- Nothing of what is sent on is taken for a fragment. -/
theorem IsWellFormed.takeWhile_sent (h : u.IsWellFormed) : u.sent.takeWhile (· ≠ '#') = u.sent := by
  rw [sent, h.getD_pathAndQuery?]
  split
  · rfl
  · exact takeWhile_of_noFragment h.noFragment

/-- What is sent on is read as it stands. -/
theorem IsTarget.readTarget_sent (h : u.IsTarget) : readTarget u.sent = .ok u.sent := by
  rw [sent, h.isWellFormed.getD_pathAndQuery?]
  split
  · rfl
  · exact h.reads

/-- With a scheme, all of a path and query is sent on. -/
theorem sent_of_scheme (h : target ≠ []) : sent ⟨some scheme, authority, target⟩ = target := by
  have hfull : target.isEmpty = false := by simpa using h
  simp [sent, pathAndQuery?, hfull]

end Switchyard.Http.Uri
