/-
Only a backend's answer binds a client.

A request that fails binds nobody: at most the binding of its own client is gone, if it could not be
honoured any more (`Handled.keeps_or_loses`).  A request that is answered binds its client to the backend
that was asked, if the client was not sent there by its binding, and nobody else
(`Handled.binds_client`).
-/
import Switchyard.Proofs.Affinity.Choice
import Switchyard.Proofs.Proxy.Outgoing
import Switchyard.Proofs.Service.Handled

namespace Switchyard.Service

variable {τ : Type} {s s' : Service τ} {p : Proxy} {req : Http.Request}
  {peer : Option Net.SocketAddr} {made : List Attempt} {key : String}

/-- A client is bound as it was before, unless the pass of a loop between two attempts has dropped its
binding. -/
def Keeps (s : Service τ) (made : List Attempt) (s' : Service τ) (key : String) : Prop :=
  s'.router.bindings.get? key = s.router.bindings.get? key ∨
    (s.loops ≠ [] ∧ 2 ≤ made.length ∧ s'.router.bindings.get? key = none)

/-- The binding of the client is gone, and could not be honoured under the rule in force. -/
def Loses (s : Service τ) (req : Http.Request) (peer : Option Net.SocketAddr) (s' : Service τ)
    (key : String) : Prop :=
  s.router.affinity.clientKey req.headers peer = some key ∧
    s'.router.bindings.get? key = none ∧
    ∃ rule b, s.router.state.rule = some rule ∧ s.router.bindings.get? key = some b ∧
      s.router.affinity.isUsable s.now rule b = false

/-- Without loops, or with a single attempt, to be kept is to be left alone. -/
theorem Keeps.get?_eq (h : s.Keeps made s' key)
    (halone : s.loops = [] ∨ made.length ≤ 1) :
    s'.router.bindings.get? key = s.router.bindings.get? key := by
  rcases h with hsame | ⟨hloops, htwo, -⟩
  · exact hsame
  · rcases halone with hnone | hone
    · exact absurd hnone hloops
    · omega

/-! ## Failures -/

/-- As long as no backend has answered, the choice of a backend is all that concerns bindings. -/
theorem keeps_or_loses_of_chosen {rule : Rule} (hrule : s.router.state.rule = some rule)
    (hkey : s'.router.bindings.get? key = (s.router.chosen req peer s.now rule).bindings.get? key ∨
      (s.loops ≠ [] ∧ 2 ≤ made.length ∧ s'.router.bindings.get? key = none)) :
    s.Keeps made s' key ∨ s.Loses req peer s' key := by
  rcases hkey with hsame | hdropped
  · rcases Affinity.get?_resolve s.router.cursor
      (s.router.affinity.clientKey req.headers peer) key with hkept | ⟨hclient, hgone, b, hb, hstale⟩
    · exact Or.inl (Or.inl (hsame.trans hkept))
    · exact Or.inr ⟨hclient, hsame.trans hgone, rule, b, hrule, hb, hstale⟩
  · exact Or.inl (Or.inr hdropped)

theorem Handled.keeps_or_loses {error : ProxyError}
    (h : Handled p req peer s (.error error) made s') (key : String) :
    s.Keeps made s' key ∨ s.Loses req peer s' key := by
  cases h with
  | unrouted _ hbindings => exact Or.inl (Or.inl (congrArg (·.get? key) hbindings))
  | refused hrule _ hbindings =>
    exact keeps_or_loses_of_chosen hrule (Or.inl (congrArg (·.get? key) hbindings))
  | failed hrule _ htried => exact keeps_or_loses_of_chosen hrule (htried.get?_cases key)

/-- Without a rule nothing is touched. -/
theorem Handled.untouched (h : Handled p req peer s (.error .noUsableBackends) made s') :
    s'.router.bindings = s.router.bindings ∧ s'.router.cursor = s.router.cursor := by
  -- of the four ways only the first one ends with this error
  generalize herror : (Except.error ProxyError.noUsableBackends : Except ProxyError Http.Response) =
    result at h
  cases h with
  | unrouted _ hbindings hcursor => exact ⟨hbindings, hcursor⟩
  | refused _ hout =>
    cases herror
    exact absurd hout (p.outgoing_ne_noUsableBackends _ req)
  | failed => cases herror
  | answered => cases herror

/-- Unless a backend is to blame, none was asked. -/
theorem Handled.made_eq_nil {error : ProxyError}
    (h : Handled p req peer s (.error error) made s')
    (hblame : ∀ backend source, error ≠ .backendFailed backend source) : made = [] := by
  cases h with
  | unrouted => rfl
  | refused => rfl
  | failed => exact absurd rfl (hblame _ _)

/-! ## Answers -/

theorem Handled.binds_client {response : Http.Response}
    (h : Handled p req peer s (.ok response) made s') :
    ∃ rule e outcome, s.router.state.rule = some rule ∧
      (s.router.chosen req peer s.now rule).resolution = ⟨e, outcome⟩ ∧
      made ≠ [] ∧ (∀ a ∈ made, a.sent.GoesTo e) ∧
      (outcome = .miss ∨ outcome = .stale → ∃ own,
        s.router.affinity.clientKey req.headers peer = some own ∧
        s'.router.bindings.get? own = some ⟨e, s'.now⟩ ∧
        ∀ key, key ≠ own → s.Keeps made s' key) ∧
      (outcome = .hit ∨ outcome = .unbound → ∀ key, s.Keeps made s' key) := by
  cases h with
  | @answered _ rule out _ _ kept hrule hout htried hbindings =>
    rcases hresolution : (s.router.chosen req peer s.now rule).resolution with ⟨e, outcome⟩
    rw [hresolution] at hout hbindings
    refine ⟨rule, e, outcome, hrule, hresolution, htried.ne_nil, ?_, ?_, ?_⟩
    · intro a ha
      rw [htried.sent_eq ha]
      exact Proxy.goesTo_of_outgoing hout
    · intro hnew
      have hnew : Resolution.isNew ⟨e, outcome⟩ = true := by
        rcases hnew with rfl | rfl <;> rfl
      obtain ⟨own, hown⟩ := Affinity.exists_key_of_isNew (hresolution ▸ hnew)
      rw [hown] at hbindings
      refine ⟨own, hown, ?_, ?_⟩
      · rw [hbindings, Affinity.get?_commit_of_isNew hnew, if_pos rfl]
      · intro key hkey
        have hother : s'.router.bindings.get? key = kept.get? key := by
          rw [hbindings, Affinity.get?_commit_of_isNew hnew, if_neg hkey]
        have hcases := htried.get?_cases key
        rw [← hother] at hcases
        -- a binding that the choice has dropped is the client's own
        rcases keeps_or_loses_of_chosen hrule hcases with hkeeps | ⟨hclient, -⟩
        · exact hkeeps
        · exact absurd (Option.some.inj (hclient.symm.trans hown)) hkey
    · -- nothing was dropped by the choice, and nothing is bound now
      intro hold key
      have hold : Resolution.isNew ⟨e, outcome⟩ = false := by
        rcases hold with rfl | rfl <;> rfl
      have hchosen : (s.router.chosen req peer s.now rule).bindings = s.router.bindings :=
        Affinity.bindings_resolve_of_not_isNew (hresolution ▸ hold)
      have hsame : s'.router.bindings = kept := by
        rw [hbindings]
        cases s.router.affinity.clientKey req.headers peer with
        | none => rfl
        | some own => exact congrArg Prod.fst (Affinity.commit_of_not_isNew hold kept s'.now own)
      rw [Keeps, hsame, ← hchosen]
      exact htried.get?_cases key

/-- **Only a backend's answer binds a client.**  A request that fails leaves every client bound as it was,
but for its own, whose binding may be gone if it could not be honoured; without a rule nothing is touched
at all, and no backend is asked unless one is to blame.  A request that is answered, with whatever
status, binds its client to the backend that was asked if the client was not sent there by its binding,
and leaves all others bound as they were. -/
theorem only_answers_bind {result : Except ProxyError Http.Response}
    (h : s.handle p req peer = (some result, s')) :
    (∀ error, result = .error error →
      (∀ key, s.Keeps (s.attempts p req peer) s' key ∨ s.Loses req peer s' key) ∧
      (error = .noUsableBackends →
        s'.router.bindings = s.router.bindings ∧ s'.router.cursor = s.router.cursor) ∧
      (error = .noUsableBackends ∨ (∃ limit, error = .payloadTooLarge limit) ∨
        (∃ message, error = .invalidRequest message) → s.attempts p req peer = [])) ∧
    (∀ response, result = .ok response →
      ∃ rule e outcome, s.router.state.rule = some rule ∧
        (s.router.chosen req peer s.now rule).resolution = ⟨e, outcome⟩ ∧
        s.attempts p req peer ≠ [] ∧ (∀ a ∈ s.attempts p req peer, a.sent.GoesTo e) ∧
        (outcome = .miss ∨ outcome = .stale → ∃ own,
          s.router.affinity.clientKey req.headers peer = some own ∧
          s'.router.bindings.get? own = some ⟨e, s'.now⟩ ∧
          ∀ key, key ≠ own → s.Keeps (s.attempts p req peer) s' key) ∧
        (outcome = .hit ∨ outcome = .unbound →
          ∀ key, s.Keeps (s.attempts p req peer) s' key)) := by
  have hhandled := handled h
  refine ⟨?_, ?_⟩
  · rintro error rfl
    refine ⟨hhandled.keeps_or_loses, ?_, ?_⟩
    · rintro rfl
      exact hhandled.untouched
    · intro hrefused
      apply hhandled.made_eq_nil
      rintro backend source rfl
      rcases hrefused with hrefused | ⟨limit, hrefused⟩ | ⟨message, hrefused⟩ <;> cases hrefused
  · rintro response rfl
    exact hhandled.binds_client

/-- Two clients are bound to a backend that is not in the rule any more.  The first attempt fails, and the
second one is answered with an error of the backend's own. -/
def roaming : Service (List (Except TransportError Http.Response)) :=
  let s := scripted [.header "x-client"] [.error (.network "reset"), .ok { status := 500 }]
  let old : Binding := ⟨{ scheme := "http", authority := "b:8080" }, 0⟩
  { s with router := { s.router with
      bindings := (Bindings.empty.insert "header:x-client=7" old).insert "header:x-client=8" old } }

/-- A request of one of them. -/
def asking : Http.Request :=
  { method := "GET", uri := ⟨none, [], ['/']⟩, headers := [("x-client", "7")], body := [] }

/-- Its client is bound to the backend that has answered, and nobody else's binding is touched. -/
theorem only_answers_bind_moved :
    ∃ response s' own, roaming.handle {} asking none = (some (.ok response), s') ∧
      response.status = 500 ∧ s'.router.bindings.get? own = some ⟨theBackend, s'.now⟩ ∧
      ∀ key, key ≠ own → s'.router.bindings.get? key = roaming.router.bindings.get? key := by
  have hstatus : ((roaming.handle {} asking none).1.map fun result =>
      result.toOption.map (·.status)) = some (some 500) := by decide +kernel
  have hchosen : (roaming.router.state.rule.map fun rule =>
      (roaming.router.chosen asking none roaming.now rule).resolution) =
        some ⟨theBackend, .stale⟩ := by decide +kernel
  rcases hhandle : roaming.handle {} asking none with ⟨_ | (error | response), s'⟩
  · rw [hhandle] at hstatus
    cases hstatus
  · rw [hhandle] at hstatus
    cases hstatus
  · rw [hhandle] at hstatus
    obtain ⟨-, hanswered⟩ := only_answers_bind hhandle
    obtain ⟨rule, e, outcome, hrule, hresolution, -, -, hbinds, -⟩ := hanswered response rfl
    rw [hrule, Option.map_some, hresolution] at hchosen
    obtain ⟨rfl, rfl⟩ := Resolution.mk.inj (Option.some.inj hchosen)
    obtain ⟨own, -, hown, hothers⟩ := hbinds (Or.inr rfl)
    exact ⟨response, s', own, rfl, Option.some.inj (Option.some.inj hstatus), hown,
      fun key hkey => (hothers key hkey).get?_eq (Or.inl rfl)⟩

end Switchyard.Service
