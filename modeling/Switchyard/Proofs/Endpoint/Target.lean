/-
Targets that are pointed at endpoints.

Nothing is left of where a target pointed before, and nothing of its path and query is lost, so that another
endpoint makes the same of it, whether it was pointed somewhere else before or not: `retarget_forgets`.  A
target that has no path gets one (`bare_gets_path`).
-/
import Switchyard.Proofs.Http.Form

namespace Switchyard.Endpoint

variable {e : Endpoint} {u v : Http.Uri}

/-- Where a target is pointed depends on what is sent on of it alone. -/
theorem retarget_congr (h : v.sent = u.sent) (e : Endpoint) : e.retarget v = e.retarget u :=
  congrArg (Http.Uri.build e.scheme.toList e.authority.toList) h

theorem eq_of_retarget (hu : u.IsWellFormed) (h : e.retarget u = .ok v) :
    v = ⟨some e.scheme.toList, e.authority.toList, u.sent⟩ := by
  obtain ⟨hscheme, hauthority, htarget⟩ := Http.Uri.eq_of_build h
  have hsent : v.target = u.sent := htarget.trans hu.takeWhile_sent
  cases v
  cases hscheme
  cases hauthority
  cases hsent
  rfl

/-- **A target that is pointed at an endpoint forgets where it pointed before**, and keeps its path and its
query; one that has neither, an authority alone or a target without any part, gets `/`.  Whatever endpoint it
is pointed at next makes of it what it would have made of the first one, and the same endpoint changes
nothing. -/
theorem retarget_forgets (hu : u.IsWellFormed) (h : e.retarget u = .ok v) :
    v.scheme = some e.scheme.toList ∧ v.authority = e.authority.toList ∧
    (u.IsAuthority ∨ u = Http.Uri.bare → v.path = ['/'] ∧ v.query? = none) ∧
    (¬ (u.IsAuthority ∨ u = Http.Uri.bare) → v.path = u.path ∧ v.query? = u.query?) ∧
    (∀ next : Endpoint, next.retarget v = next.retarget u) ∧ e.retarget v = .ok v := by
  obtain ⟨hpath, hquery⟩ := retarget_keeps hu h
  have hv := eq_of_retarget hu h
  have hsent : v.sent = u.sent := by
    rw [hv]
    exact Http.Uri.sent_of_scheme u.sent_ne_nil
  refine ⟨by rw [hv], by rw [hv], fun hnone => ⟨?_, ?_⟩, fun hsome => ⟨?_, hquery⟩,
    retarget_congr hsent, (retarget_congr hsent e).trans h⟩
  · rw [hpath, if_pos (hu.path_eq_nil_iff.2 hnone)]
  · have htarget : u.target = [] := by
      rcases hnone with ⟨hscheme, hauthority⟩ | rfl
      · exact hu.authorityAlone hscheme hauthority
      · rfl
    rw [hquery, Http.Uri.query?, htarget]
    rfl
  · rw [hpath, if_neg (mt hu.path_eq_nil_iff.1 hsome)]

/-- A query without a path is kept, and an authority alone gets a path; another endpoint makes of both what it
makes of what was received. -/
theorem retarget_forgets_router :
    ∃ u v w x, Http.Uri.parse "http://router.local?q=up".toList = .ok u ∧
      retarget { scheme := "https", authority := "backend:8443" } u = .ok v ∧
      v.path = u.path ∧ v.query? = some "q=up".toList ∧
      retarget { scheme := "http", authority := "[::1]:81" } v =
        retarget { scheme := "http", authority := "[::1]:81" } u ∧
      Http.Uri.parse "router.local:443".toList = .ok w ∧
      retarget { scheme := "https", authority := "backend:8443" } w = .ok x ∧ x.path = ['/'] ∧
      retarget { scheme := "https", authority := "backend:8443" } x = .ok x := by
  have hu : Http.Uri.parse "http://router.local?q=up".toList =
      .ok ⟨some "http".toList, "router.local".toList, "?q=up".toList⟩ := by decide +kernel
  have hw : Http.Uri.parse "router.local:443".toList = .ok ⟨none, "router.local:443".toList, []⟩ := by
    decide +kernel
  have hv : retarget { scheme := "https", authority := "backend:8443" }
      ⟨some "http".toList, "router.local".toList, "?q=up".toList⟩ =
        .ok ⟨some "https".toList, "backend:8443".toList, "?q=up".toList⟩ := by decide +kernel
  have hx : retarget { scheme := "https", authority := "backend:8443" }
      ⟨none, "router.local:443".toList, []⟩ =
        .ok ⟨some "https".toList, "backend:8443".toList, ['/']⟩ := by decide +kernel
  obtain ⟨-, -, -, hkept, hnext, -⟩ := retarget_forgets (Http.Uri.isWellFormed_of_parse hu) hv
  obtain ⟨-, -, halone, -, -, hagain⟩ := retarget_forgets (Http.Uri.isWellFormed_of_parse hw) hx
  exact ⟨_, _, _, _, hu, hv, (hkept (by decide)).1, rfl, hnext _, hw, hx, (halone (Or.inl (by decide))).1, hagain⟩

/-- Not every target that is no authority keeps its path: the one without any part has none, and gets `/`. -/
theorem bare_gets_path :
    ¬ ∀ (e : Endpoint) (u v : Http.Uri), u.IsWellFormed → e.retarget u = .ok v → ¬ u.IsAuthority →
      v.path = u.path ∧ v.query? = u.query? := by
  intro hall
  have hbare : Http.Uri.bare.IsWellFormed := ⟨List.not_mem_nil, fun _ _ => rfl⟩
  have hv : retarget { scheme := "http", authority := "a:8080" } Http.Uri.bare =
      .ok ⟨some "http".toList, "a:8080".toList, ['/']⟩ := by decide +kernel
  obtain ⟨hpath, -⟩ := hall _ _ _ hbare hv (fun halone => halone.2 rfl)
  cases hpath

end Switchyard.Endpoint
