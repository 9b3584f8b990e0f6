/-
One request, step by step.

A `Visit` is how far one request has come: it loads the published state once, looks its client up, picks
a backend, sends its attempts and accounts for what came of them.  Between two of its steps refreshes
and other requests may move, and what bindings it meets is up to them.  `Visit.Step` is made of the
steps that `Proxy.prepare`, the attempts and `Proxy.conclude` run in a row.

The lemmas say what a step leaves alone (`frame`) and where the request is bound for
(`Tracks.step`): all its attempts go to one backend of the rule that it loaded.
-/
import Switchyard.Proofs.Proxy.Outgoing

namespace Switchyard

/-- What a request goes by once it has loaded a published state with a rule. -/
structure Errand where
  request : Http.Request
  key : Option String
  snapshot : RouterState
  rule : Rule
  rule_eq : snapshot.rule = some rule

theorem Errand.rule_ne_none (e : Errand) : e.snapshot.rule ≠ none := by
  rw [e.rule_eq]
  exact Option.some_ne_none e.rule

/-- How far a request has come. -/
inductive Visit where
  | absent
  /-- The client is still to be looked up. -/
  | looking (e : Errand)
  /-- A binding was met that cannot be honoured. -/
  | dropping (e : Errand) (key : String)
  /-- The rule is still to be asked for an endpoint. -/
  | picking (e : Errand) (outcome : AffinityOutcome)
  | chosen (e : Errand) (resolution : Resolution)
  /-- The choice is counted. -/
  | routed (e : Errand) (resolution : Resolution)
  /-- Some attempts have been made, and another one follows. -/
  | sending (e : Errand) (q : Proxy.Prepared) (made : Nat)
  /-- An attempt has been made and not been answered. -/
  | exchanging (e : Errand) (q : Proxy.Prepared) (made : Nat)
  /-- The attempts have come to an end. -/
  | heard (e : Errand) (q : Proxy.Prepared) (result : Except TransportError Http.Response)
  /-- All that is left is to count the request. -/
  | settled (method : String) (result : Except ProxyError Http.Response)
  | closed
  /-- The client went away, or the program could not go on. -/
  | gone

namespace Visit

/-- What a step of a request does, as others may see it. -/
inductive Act where
  | load (snapshot : RouterState)
  | look
  | drop
  | pick
  | note
  | prepare
  /-- Hands this to the transport. -/
  | send (out : Http.Outgoing)
  | hear
  | conclude
  | answer (result : Except ProxyError Http.Response)
  | vanish

/-- What a request has done so far, as others may see it. -/
structure Record where
  /-- The published states that it loaded. -/
  loaded : List RouterState := []
  /-- What it handed to the transport. -/
  sent : List Http.Outgoing := []
  /-- What it answered the client. -/
  answered : List (Except ProxyError Http.Response) := []

/-- The record after one more step. -/
def Record.add (record : Record) : Act → Record
  | .load snapshot => { record with loaded := record.loaded ++ [snapshot] }
  | .send out => { record with sent := record.sent ++ [out] }
  | .answer result => { record with answered := record.answered ++ [result] }
  | _ => record

/-- One step of a request at some time.  What the transport answers is left open, and so is which
endpoint a random pick falls on. -/
inductive Step (p : Proxy) (now : Nat) : Router → Visit → Act → Router → Visit → Prop
  | refuse {r : Router} (request : Http.Request) (h : r.state.rule = none) :
      Step p now r absent (.load r.state) r
        (settled request.method (.error .noUsableBackends))
  | load {r : Router} {rule : Rule} (request : Http.Request) (peer : Option Net.SocketAddr)
      (h : r.state.rule = some rule) :
      Step p now r absent (.load r.state) r
        (looking ⟨request, r.affinity.clientKey request.headers peer, r.state, rule, h⟩)
  | unbound {r : Router} {e : Errand} (h : e.key = none) :
      Step p now r (looking e) .look r (picking e .unbound)
  | hit {r : Router} {e : Errand} {key : String} {b : Binding} (hkey : e.key = some key)
      (h : r.affinity.lookup r.bindings now e.rule key = .usable b) :
      Step p now r (looking e) .look r (chosen e ⟨b.endpoint, .hit⟩)
  | stale {r : Router} {e : Errand} {key : String} {b : Binding} (hkey : e.key = some key)
      (h : r.affinity.lookup r.bindings now e.rule key = .unusable b) :
      Step p now r (looking e) .look r (dropping e key)
  | miss {r : Router} {e : Errand} {key : String} (hkey : e.key = some key)
      (h : r.affinity.lookup r.bindings now e.rule key = .nothing) :
      Step p now r (looking e) .look r (picking e .miss)
  | drop {r : Router} {e : Errand} {key : String} :
      Step p now r (dropping e key) .drop
        { r with bindings := r.affinity.dropUnusable r.bindings now e.rule key }
        (picking e .stale)
  | pick {r : Router} {e : Errand} {outcome : AffinityOutcome} :
      Step p now r (picking e outcome) .pick { r with cursor := (e.rule.pick r.cursor).2 }
        (chosen e ⟨(e.rule.pick r.cursor).1, outcome⟩)
  /-- A random pick, whatever is drawn. -/
  | draw {r : Router} {e : Errand} {outcome : AffinityOutcome} {endpoint : Endpoint}
      (cursor : Cursor) (hrandom : e.rule.strategy = .random)
      (h : endpoint ∈ e.rule.selection) :
      Step p now r (picking e outcome) .pick { r with cursor } (chosen e ⟨endpoint, outcome⟩)
  | note {r : Router} {e : Errand} {resolution : Resolution} :
      Step p now r (chosen e resolution) .note
        { r with metrics := r.metrics.recordAffinity resolution.outcome.label }
        (routed e resolution)
  | prepare {r : Router} {e : Errand} {resolution : Resolution} {out : Http.Outgoing}
      (h : p.outgoing resolution.endpoint e.request = .ok out) :
      Step p now r (routed e resolution) .prepare r (sending e ⟨e.key, resolution, out⟩ 0)
  | reject {r : Router} {e : Errand} {resolution : Resolution} {error : ProxyError}
      (h : p.outgoing resolution.endpoint e.request = .error (.error error)) :
      Step p now r (routed e resolution) .prepare r (settled e.request.method (.error error))
  | overflow {r : Router} {e : Errand} {resolution : Resolution}
      (h : p.outgoing resolution.endpoint e.request = .error .overflow) :
      Step p now r (routed e resolution) .vanish r gone
  | send {r : Router} {e : Errand} {q : Proxy.Prepared} {made : Nat} :
      Step p now r (sending e q made) (.send q.outgoing) r (exchanging e q (made + 1))
  | reply {r : Router} {e : Errand} {q : Proxy.Prepared} {made : Nat} (response : Http.Response) :
      Step p now r (exchanging e q made) .hear r (heard e q (.ok response))
  | again {r : Router} {e : Errand} {q : Proxy.Prepared} {made : Nat} (error : TransportError)
      (hretry : error.isRetryable = true) (hleft : made < p.retry.budget) :
      Step p now r (exchanging e q made) .hear r (sending e q made)
  | fail {r : Router} {e : Errand} {q : Proxy.Prepared} {made : Nat} (error : TransportError)
      (hlast : error.isRetryable = false ∨ p.retry.budget ≤ made) :
      Step p now r (exchanging e q made) .hear r (heard e q (.error error))
  | conclude {r : Router} {e : Errand} {q : Proxy.Prepared}
      {result : Except TransportError Http.Response} :
      Step p now r (heard e q result) .conclude (Proxy.conclude r q result now).2.1
        (settled e.request.method (Proxy.conclude r q result now).1)
  | answer {r : Router} {method : String} {result : Except ProxyError Http.Response} :
      Step p now r (settled method result) (.answer result) (Proxy.record r method result) closed
  -- the client goes away while the body is read, between two attempts or during one
  | leaveReading {r : Router} {e : Errand} {resolution : Resolution} :
      Step p now r (routed e resolution) .vanish r gone
  | leaveSending {r : Router} {e : Errand} {q : Proxy.Prepared} {made : Nat} :
      Step p now r (sending e q made) .vanish r gone
  | leaveExchanging {r : Router} {e : Errand} {q : Proxy.Prepared} {made : Nat} :
      Step p now r (exchanging e q made) .vanish r gone

end Visit

/-! ## What requests leave alone -/

namespace Proxy

/-- Concluding a request leaves alone what refreshes go by. -/
theorem frame_conclude (r : Router) (q : Prepared) (result : Except TransportError Http.Response)
    (now : Nat) :
    (conclude r q result now).2.1.state = r.state ∧ (conclude r q result now).2.1.gate = r.gate ∧
      (conclude r q result now).2.1.strategy = r.strategy := by
  cases result with
  | ok response => exact ⟨rfl, rfl, rfl⟩
  | error source => exact ⟨rfl, rfl, rfl⟩

/-- A backend that was tried is never the want of a backend. -/
theorem conclude_ne_noUsableBackends (r : Router) (q : Prepared)
    (result : Except TransportError Http.Response) (now : Nat) :
    (conclude r q result now).1 ≠ .error .noUsableBackends := by
  cases result with
  | ok response =>
    intro h
    cases h
  | error source =>
    intro h
    cases h

end Proxy

namespace Visit.Step

variable {p : Proxy} {now : Nat} {r r' : Router} {v v' : Visit} {act : Act}

/-- Requests neither publish nor take part in the gate. -/
theorem frame (h : Step p now r v act r' v') :
    r'.state = r.state ∧ r'.gate = r.gate ∧ r'.strategy = r.strategy := by
  cases h with
  | @conclude e q result => exact Proxy.frame_conclude r q result now
  | _ => exact ⟨rfl, rfl, rfl⟩

/-- A request starts by loading the state that is published. -/
theorem eq_state_of_load {snapshot : RouterState} (h : Step p now r v (.load snapshot) r' v') :
    snapshot = r.state := by
  cases h with
  | refuse => rfl
  | load => rfl

end Visit.Step

/-! ## Where a request is bound for -/

theorem Rule.contains_iff {rule : Rule} {e : Endpoint} :
    rule.contains e = true ↔ e.identity ∈ rule.selection.map Endpoint.identity := by
  rw [Rule.contains, Endpoint.holds, List.any_eq_true, List.mem_map]
  simp only [Endpoint.same_iff]

theorem Rule.contains_of_mem {rule : Rule} {e : Endpoint} (h : e ∈ rule.selection) :
    rule.contains e = true :=
  Rule.contains_iff.2 (List.mem_map_of_mem h)

/-- A binding that is honoured is bound to a backend of the rule. -/
theorem Affinity.contains_of_lookup {a : Affinity} {bindings : Bindings} {now : Nat} {rule : Rule}
    {key : String} {b : Binding} (h : a.lookup bindings now rule key = .usable b) :
    rule.contains b.endpoint = true := by
  rw [lookup] at h
  split at h
  · cases h
  · split at h
    · rename_i husable
      cases h
      rw [isUsable, Bool.and_eq_true] at husable
      exact husable.1
    · cases h

namespace Visit

/-- All that was sent went to one backend of the rule that was loaded, or there was no rule and nothing
was sent. -/
def Reaches (snapshot : RouterState) (sent : List Http.Outgoing) : Prop :=
  (snapshot.rule = none ∧ sent = []) ∨
    ∃ rule e, snapshot.rule = some rule ∧ rule.contains e = true ∧ ∀ out ∈ sent, out.GoesTo e

/-- The answer blames the want of a backend exactly if there was no rule. -/
def Explains (snapshot : RouterState) (result : Except ProxyError Http.Response) : Prop :=
  result = .error .noUsableBackends ↔ snapshot.rule = none

/-- What a request has done so far, as its phase tells. -/
def Tracks (record : Record) : Visit → Prop
  | absent => record = {}
  | looking e | dropping e _ | picking e _ => record = { loaded := [e.snapshot] }
  | chosen e resolution | routed e resolution =>
    record = { loaded := [e.snapshot] } ∧ e.rule.contains resolution.endpoint = true
  | sending e q _ | exchanging e q _ | heard e q _ =>
    record.loaded = [e.snapshot] ∧ record.answered = [] ∧
      e.rule.contains q.resolution.endpoint = true ∧
      q.outgoing.GoesTo q.resolution.endpoint ∧
      ∀ out ∈ record.sent, out.GoesTo q.resolution.endpoint
  | settled _ result =>
    ∃ snapshot, record.loaded = [snapshot] ∧ record.answered = [] ∧
      Reaches snapshot record.sent ∧ Explains snapshot result
  | closed =>
    ∃ snapshot result, record.loaded = [snapshot] ∧ record.answered = [result] ∧
      Reaches snapshot record.sent ∧ Explains snapshot result
  | gone =>
    ∃ snapshot, record.loaded = [snapshot] ∧ record.answered = [] ∧
      Reaches snapshot record.sent ∧ snapshot.rule ≠ none

section Errand

variable (e : Errand)

theorem Reaches.of_errand {endpoint : Endpoint} {sent : List Http.Outgoing}
    (hcontains : e.rule.contains endpoint = true) (hsent : ∀ out ∈ sent, out.GoesTo endpoint) :
    Reaches e.snapshot sent :=
  Or.inr ⟨e.rule, endpoint, e.rule_eq, hcontains, hsent⟩

/-- Before anything is sent, any backend of the rule will do. -/
theorem Reaches.of_errand_nil {endpoint : Endpoint} (h : e.rule.contains endpoint = true) :
    Reaches e.snapshot [] := by
  apply Reaches.of_errand e h
  intro out hmem
  cases hmem

theorem Explains.of_errand {result : Except ProxyError Http.Response}
    (h : result ≠ .error .noUsableBackends) : Explains e.snapshot result :=
  iff_of_false h e.rule_ne_none

end Errand

/-- One more step of a request keeps the account. -/
theorem Tracks.step {p : Proxy} {now : Nat} {r r' : Router} {v v' : Visit} {act : Act}
    {record : Record} (hv : Tracks record v) (h : Step p now r v act r' v') :
    Tracks (record.add act) v' := by
  cases h with
  | refuse request hnone =>
    -- no rule, and the answer says so
    subst hv
    exact ⟨r.state, rfl, rfl, Or.inl ⟨hnone, rfl⟩, iff_of_true rfl hnone⟩
  | load request peer hrule =>
    subst hv
    rfl
  | unbound | stale | miss | drop | note => exact hv
  -- from here on the backend is one of the rule that was loaded, however old the binding is
  | hit hkey hlookup => exact ⟨hv, Affinity.contains_of_lookup hlookup⟩
  | pick => exact ⟨hv, Rule.contains_of_mem (Rule.pick_mem _ _)⟩
  | draw cursor hrandom hmem => exact ⟨hv, Rule.contains_of_mem hmem⟩
  | prepare hout =>
    obtain ⟨rfl, hcontains⟩ := hv
    refine ⟨rfl, rfl, hcontains, Proxy.goesTo_of_outgoing hout, ?_⟩
    intro out hmem
    cases hmem
  | @reject e resolution error hout =>
    obtain ⟨rfl, hcontains⟩ := hv
    refine ⟨e.snapshot, rfl, rfl, Reaches.of_errand_nil e hcontains, Explains.of_errand e ?_⟩
    -- what keeps a request from being sent is never the want of a backend
    intro heq
    rw [Except.error.inj heq] at hout
    exact Proxy.outgoing_ne_noUsableBackends p resolution.endpoint e.request hout
  | @overflow e | @leaveReading e =>
    obtain ⟨rfl, hcontains⟩ := hv
    exact ⟨e.snapshot, rfl, rfl, Reaches.of_errand_nil e hcontains, e.rule_ne_none⟩
  | send =>
    obtain ⟨hloaded, hanswered, hcontains, hgoes, hsent⟩ := hv
    refine ⟨hloaded, hanswered, hcontains, hgoes, ?_⟩
    -- the new attempt sends what was prepared for the endpoint
    intro out hmem
    rcases List.mem_append.1 hmem with hmem | hmem
    · exact hsent out hmem
    · rw [List.mem_singleton.1 hmem]
      exact hgoes
  | reply | again | fail => exact hv
  | @conclude e q result =>
    obtain ⟨hloaded, hanswered, hcontains, -, hsent⟩ := hv
    exact ⟨e.snapshot, hloaded, hanswered, Reaches.of_errand e hcontains hsent,
      Explains.of_errand e (Proxy.conclude_ne_noUsableBackends r q result now)⟩
  | @answer method result =>
    obtain ⟨snapshot, hloaded, hanswered, hreaches, hexplains⟩ := hv
    refine ⟨snapshot, result, hloaded, ?_, hreaches, hexplains⟩
    show record.answered ++ [result] = [result]
    rw [hanswered, List.nil_append]
  | @leaveSending e | @leaveExchanging e =>
    obtain ⟨hloaded, hanswered, hcontains, -, hsent⟩ := hv
    exact ⟨e.snapshot, hloaded, hanswered, Reaches.of_errand e hcontains hsent,
      e.rule_ne_none⟩

end Visit

end Switchyard
