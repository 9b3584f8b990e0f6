/-
Requests in turn.

A request that is not bound to a backend gets one from the rule that it goes by, and all rules share one
cursor.  `Dispatches` is a run together with what the rules gave to whom.  While the cursor has not started
over, the endpoint that was given out at some place in this list is the one whose turn it was
(`IsRotating`), and the request keeps to it (`Dispatch.IsFollowed`).  So under one rule the endpoints get
equally many requests, up to one (`round_robin_balanced`).
-/
import Switchyard.Proofs.Concurrent.Dangling
import Switchyard.Proofs.Strategy.Rotation

namespace Switchyard

/-! ## Turns of a rule -/

namespace Rule

variable (rule : Rule)

/-- The endpoint that has a turn. -/
def turn (k : Nat) : Endpoint := rule.selection[k % rule.selection.length]?.getD rule.first

theorem length_selection_pos : 0 < rule.selection.length :=
  List.length_pos_iff.2 rule.selection_ne_nil

theorem turn_eq_getElem {k : Nat} (hk : k % rule.selection.length < rule.selection.length) :
    rule.turn k = rule.selection[k % rule.selection.length] := by
  rw [turn, List.getElem?_eq_getElem hk]
  rfl

/-- A rule that takes its endpoints in turn gives the turn that the cursor counts. -/
theorem pick_of_roundRobin {rule : Rule} (h : rule.strategy = .roundRobin) (cursor : Cursor) :
    rule.pick cursor = (rule.turn cursor.turns.toNat, cursor.turned) := by
  have hnext := Strategy.next_roundRobin rule.selection_ne_nil cursor
  rw [pick, h, hnext]
  rfl

section Nodup

variable {rule : Rule} (hnodup : (rule.selection.map Endpoint.identity).Nodup)

include hnodup

/-- Among different backends, each has the turns of its place. -/
theorem turn_same_iff {i : Nat} (hi : i < rule.selection.length) (k : Nat) :
    (rule.turn k).same rule.selection[i] = true ↔ k % rule.selection.length = i := by
  have hmod : k % rule.selection.length < rule.selection.length :=
    Nat.mod_lt _ rule.length_selection_pos
  rw [Endpoint.same_iff, rule.turn_eq_getElem hmod]
  constructor
  · intro hid
    -- the identities are different, so they stand at the same place
    have hk : k % rule.selection.length < (rule.selection.map Endpoint.identity).length := by simpa using hmod
    have hplace : i < (rule.selection.map Endpoint.identity).length := by simpa using hi
    have hids : (rule.selection.map Endpoint.identity)[k % rule.selection.length] =
        (rule.selection.map Endpoint.identity)[i] := by simpa using hid
    exact hnodup.getElem_inj_iff.1 hids
  · rintro rfl
    rfl

theorem countP_turn {i : Nat} (hi : i < rule.selection.length) (start m : Nat) :
    ((List.range' start m).map rule.turn).countP (·.same rule.selection[i]) =
      (turns rule.selection.length start m).count i := by
  rw [turns, List.count, List.countP_map, List.countP_map]
  apply List.countP_congr
  intro k _
  simp only [Function.comp_apply, turn_same_iff hnodup hi, beq_iff_eq]

/-- Of turns in a row, no endpoint has more than one in excess of another. -/
theorem countP_turn_le (start m : Nat) {a b : Endpoint} (ha : a ∈ rule.selection)
    (hb : b ∈ rule.selection) :
    ((List.range' start m).map rule.turn).countP (·.same a) ≤
      ((List.range' start m).map rule.turn).countP (·.same b) + 1 := by
  obtain ⟨i, hi, rfl⟩ := List.mem_iff_getElem.1 ha
  obtain ⟨j, hj, rfl⟩ := List.mem_iff_getElem.1 hb
  rw [countP_turn hnodup hi, countP_turn hnodup hj]
  exact (isBalanced_turns rule.length_selection_pos start m).count_le hi hj

end Nodup

end Rule

/-- The rule in force is for different backends, and it picks by the strategy of the router. -/
theorem RouterState.IsSound.strategy_and_nodup {strategy : Strategy} {s : RouterState}
    (h : s.IsSound strategy) {rule : Rule} (hrule : s.rule = some rule) :
    rule.strategy = strategy ∧ (rule.selection.map Endpoint.identity).Nodup := by
  obtain ⟨hstrategy, ⟨origin, horigin, hselection⟩, -⟩ := h.rule rule hrule
  refine ⟨hstrategy, ?_⟩
  rw [hselection]
  exact horigin.nodup_admitted

/-! ## Who moves the cursor -/

theorem Proxy.cursor_conclude (r : Router) (q : Prepared)
    (result : Except TransportError Http.Response) (now : Nat) :
    (conclude r q result now).2.1.cursor = r.cursor := by
  cases result with
  | ok response => rfl
  | error source => rfl

namespace Visit

/-- An endpoint has been chosen for the request, or none will be. -/
def hasChosen : Visit → Bool
  | absent | looking _ | dropping _ _ | picking _ _ => false
  | _ => true

/-- The endpoint that was chosen for a request. -/
def target? : Visit → Option Endpoint
  | chosen _ resolution | routed _ resolution => some resolution.endpoint
  | sending _ q _ | exchanging _ q _ | heard _ q _ => some q.resolution.endpoint
  | _ => none

variable {p : Proxy} {now : Nat} {r r' : Router} {v v' : Visit} {act : Act}

/-- Requests leave the cursor alone, except when they pick. -/
theorem Step.cursor_eq (h : Step p now r v act r' v') (hact : act ≠ .pick) :
    r'.cursor = r.cursor := by
  cases h with
  | pick | draw => exact absurd rfl hact
  | @conclude e q result => exact Proxy.cursor_conclude r q result now
  | _ => rfl

/-- A request picks once, and then it has an endpoint. -/
theorem Step.hasChosen_of_pick (h : Step p now r v .pick r' v') :
    v.hasChosen = false ∧ ∃ e resolution, v.errand? = some e ∧ v' = chosen e resolution := by
  cases h with
  | pick | draw => exact ⟨rfl, _, _, rfl, rfl⟩

/-- Where picks are not random, the rule gives the endpoint. -/
theorem Step.eq_of_pick {e : Errand} {resolution : Resolution}
    (h : Step p now r v .pick r' (chosen e resolution)) (hrandom : e.rule.strategy ≠ .random) :
    resolution.endpoint = (e.rule.pick r.cursor).1 ∧ r'.cursor = (e.rule.pick r.cursor).2 := by
  cases h with
  | pick => exact ⟨rfl, rfl⟩
  | draw cursor hdraw hmem => exact absurd hdraw hrandom

/-- A request without a key has its endpoint from a pick. -/
theorem Step.hasChosen_of_keyless (h : Step p now r v act r' v') (hact : act ≠ .pick) {e : Errand}
    (he : v'.errand? = some e) (hkey : e.key = none) (hchosen : v'.hasChosen = true) :
    v.hasChosen = true ∧ v.errand? = some e := by
  cases h with
  | pick | draw => exact absurd rfl hact
  | hit hbound =>
    obtain rfl := Option.some.inj he
    rw [hkey] at hbound
    cases hbound
  | load | unbound | stale | miss | drop => cases hchosen
  | note | prepare | send | reply | again | fail => exact ⟨rfl, he⟩
  | _ => cases he -- the request has come to its end

end Visit

/-! ## What was given to whom -/

/-- A request got an endpoint from the rule that it goes by. -/
structure Dispatch where
  request : Nat
  errand : Errand
  endpoint : Endpoint

/-- The request has sent nothing to other endpoints, and is not about to. -/
structure Dispatch.IsFollowed (d : Dispatch) (record : Visit.Record) (v : Visit) : Prop where
  hasChosen : v.hasChosen = true
  target : ∀ e, v.target? = some e → e = d.endpoint
  sent : ∀ out ∈ record.sent, out.GoesTo d.endpoint

/-- A request keeps to the endpoint that it got. -/
theorem Dispatch.IsFollowed.step {d : Dispatch} {record : Visit.Record} {p : Proxy} {now : Nat}
    {r r' : Router} {v v' : Visit} {act : Visit.Act} (hd : d.IsFollowed record v)
    (hv : Visit.Tracks record v) (h : Visit.Step p now r v act r' v') :
    d.IsFollowed (record.add act) v' := by
  obtain ⟨hchosen, htarget, hsent⟩ := hd
  cases h with
  | refuse | load | unbound | hit | stale | miss | drop | pick | draw => cases hchosen
  | note | prepare | reply | again | fail => exact ⟨rfl, htarget, hsent⟩
  | @send e q made =>
    obtain ⟨-, -, -, hgoes, -⟩ := hv
    refine ⟨rfl, htarget, ?_⟩
    intro out hmem
    rcases List.mem_append.1 hmem with hmem | hmem
    · exact hsent out hmem
    · rw [List.mem_singleton.1 hmem, ← htarget q.resolution.endpoint rfl]
      exact hgoes
  | _ => exact ⟨rfl, nofun, hsent⟩ -- the request has come to its end

/-- A step in which a rule gives an endpoint to a request. -/
def Label.isPick : Label → Bool
  | visit _ .pick => true
  | _ => false

namespace System

/-- A run, and what the rules gave to whom in it, in that order. -/
inductive Dispatches (p : Proxy) (start : System) : List Label → List Dispatch → System → Prop
  | nil : Dispatches p start [] [] start
  | pick {trace : List Label} {log : List Dispatch} {s s' : System} {j : Nat} {e : Errand}
      {resolution : Resolution} (h : Dispatches p start trace log s)
      (hstep : Step p s (.visit j .pick) s') (hv : s'.visits j = .chosen e resolution) :
      Dispatches p start (trace ++ [.visit j .pick]) (log ++ [⟨j, e, resolution.endpoint⟩]) s'
  | other {trace : List Label} {log : List Dispatch} {s s' : System} {l : Label}
      (h : Dispatches p start trace log s) (hstep : Step p s l s') (hl : l.isPick = false) :
      Dispatches p start (trace ++ [l]) log s'

variable {p : Proxy} {start s s' : System} {trace : List Label} {log : List Dispatch}

theorem Dispatches.run (h : Dispatches p start trace log s) : Run p start trace s := by
  induction h with
  | nil => exact .nil
  | pick _ hstep _ ih => exact ih.snoc hstep
  | other _ hstep _ ih => exact ih.snoc hstep

/-- Every run is one of these. -/
theorem Run.exists_dispatches (h : Run p start trace s) : ∃ log, Dispatches p start trace log s := by
  induction h with
  | nil => exact ⟨[], .nil⟩
  | @snoc trace l s s' _ hstep ih =>
    obtain ⟨log, hlog⟩ := ih
    cases hpick : l.isPick with
    | false => exact ⟨log, hlog.other hstep hpick⟩
    | true =>
      cases hstep with
      | call => cases hpick
      | tick => cases hpick
      | @visit j v v' act r hv hstep =>
        cases act with
        | pick =>
          obtain ⟨-, e, resolution, -, rfl⟩ := hstep.hasChosen_of_pick
          exact ⟨_, hlog.pick (.visit hv hstep) (visits_moveVisit_self _ _ _ _)⟩
        | _ => cases hpick

/-! ## Requests that got an endpoint -/

theorem isFollowed_note {d : Dispatch} (hd : d.IsFollowed (recordOf d.request trace) (s.visits d.request))
    (hv : Visit.Tracks (recordOf d.request trace) (s.visits d.request)) {l : Label}
    (h : Step p s l s') :
    d.IsFollowed (recordOf d.request (trace ++ [l])) (s'.visits d.request) := by
  rw [recordOf_snoc]
  cases h with
  | call => exact hd
  | tick => exact hd
  | @visit k v v' act r hk h =>
    subst hk
    rw [Label.note]
    by_cases hkd : k = d.request
    · subst hkd
      rw [if_pos rfl, visits_moveVisit_self]
      exact hd.step hv h
    · rw [if_neg hkd, visits_moveVisit_of_ne _ _ _ _ (Ne.symm hkd)]
      exact hd

theorem Step.visit_of_pick {j : Nat} (h : Step p s (.visit j .pick) s') :
    Visit.Step p s.now s.router (s.visits j) .pick s'.router (s'.visits j) := by
  cases h with
  | visit hv h =>
    rw [router_moveVisit, visits_moveVisit_self, hv]
    exact h

/-- Requests keep to the endpoints that they got, and no request gets two. -/
theorem IsIdle.isFollowed (hstart : start.IsIdle) (h : Dispatches p start trace log s) :
    (log.map Dispatch.request).Nodup ∧
      ∀ d ∈ log, d.IsFollowed (recordOf d.request trace) (s.visits d.request) := by
  induction h with
  | nil => exact ⟨List.nodup_nil, List.forall_mem_nil _⟩
  | @pick trace log s s' j e resolution hlog hstep hv ih =>
    obtain ⟨hnodup, hfollowed⟩ := ih
    obtain ⟨hfresh, -⟩ := hstep.visit_of_pick.hasChosen_of_pick
    have hnew : j ∉ log.map Dispatch.request := by
      intro hj
      obtain ⟨d, hd, rfl⟩ := List.mem_map.1 hj
      rw [(hfollowed d hd).hasChosen] at hfresh
      cases hfresh
    refine ⟨?_, ?_⟩
    · rw [List.map_append, List.map_singleton, List.nodup_append_comm, List.singleton_append]
      exact List.nodup_cons.2 ⟨hnew, hnodup⟩
    · intro d hd
      rcases List.mem_append.1 hd with hd | hd
      · exact isFollowed_note (hfollowed d hd) (hstart.tracks_run hlog.run _) hstep
      · obtain rfl := List.mem_singleton.1 hd
        refine ⟨by rw [hv]; rfl, ?_, ?_⟩
        · intro endpoint hendpoint
          rw [hv] at hendpoint
          exact (Option.some.inj hendpoint).symm
        · -- it has just been given its endpoint, so nothing has been sent
          have htracks := hstart.tracks_run (hlog.run.snoc hstep) j
          rw [hv] at htracks
          rw [htracks.1]
          nofun
  | @other trace log s s' l hlog hstep hl ih =>
    obtain ⟨hnodup, hfollowed⟩ := ih
    exact ⟨hnodup, fun d hd =>
      isFollowed_note (hfollowed d hd) (hstart.tracks_run hlog.run _) hstep⟩

/-- A request without a key that has an endpoint was given it by its rule. -/
theorem IsIdle.exists_dispatch (hstart : start.IsIdle) (h : Dispatches p start trace log s) {j : Nat}
    {e : Errand} (he : (s.visits j).errand? = some e) (hkey : e.key = none)
    (hchosen : (s.visits j).hasChosen = true) : ∃ d ∈ log, d.request = j ∧ d.errand = e := by
  induction h with
  | nil =>
    rw [hstart.visits j] at he
    cases he
  | @pick trace log s s' k e' resolution _ hstep hv ih =>
    by_cases hjk : j = k
    · subst hjk
      rw [hv] at he
      exact ⟨_, List.mem_append_right _ (List.mem_singleton_self _), rfl, Option.some.inj he⟩
    · cases hstep with
      | visit hk hstep =>
        rw [visits_moveVisit_of_ne _ _ _ _ hjk] at he hchosen
        obtain ⟨d, hd, hrequest⟩ := ih he hchosen
        exact ⟨d, List.mem_append_left _ hd, hrequest⟩
  | @other trace log s s' l _ hstep hl ih =>
    cases hstep with
    | call => exact ih he hchosen
    | tick => exact ih he hchosen
    | @visit k v v' act r hk hstep =>
      subst hk
      have hact : act ≠ .pick := by
        rintro rfl
        cases hl
      by_cases hjk : j = k
      · subst hjk
        rw [visits_moveVisit_self] at he hchosen
        obtain ⟨hchosen, he⟩ := hstep.hasChosen_of_keyless hact he hkey hchosen
        exact ih he hchosen
      · rw [visits_moveVisit_of_ne _ _ _ _ hjk] at he hchosen
        exact ih he hchosen

/-! ## Taking turns -/

/-- What a request goes by was published, so it is sound. -/
theorem IsIdle.isSound_errand (hstart : start.IsIdle) (hrun : Run p start trace s) {j : Nat} {e : Errand}
    (he : (s.visits j).errand? = some e) : e.snapshot.IsSound start.router.strategy := by
  induction hrun with
  | nil =>
    rw [hstart.visits j] at he
    cases he
  | snoc hrun hstep ih =>
    rcases hstep.errand?_cases he with hold | ⟨-, hstate⟩
    · exact ih hold
    · rw [← hstate]
      exact hstart.isSound_state (hrun.snoc hstep)

theorem Step.cursor_eq {l : Label} (h : Step p s l s') (hl : l.isPick = false) :
    s'.router.cursor = s.router.cursor := by
  cases h with
  | call hc h => exact h.frame.2.2
  | tick => rfl
  | visit hv h =>
    refine h.cursor_eq ?_
    rintro rfl
    cases hl

/-- The cursor counts what has been given out, which were the turns of the rules, one after the other. -/
structure IsRotating (log : List Dispatch) (s : System) : Prop where
  turns : s.router.cursor.turns = UInt64.ofNat log.length
  turn : ∀ (k : Nat) (d : Dispatch), log[k]? = some d → d.endpoint = d.errand.rule.turn k
  sound : ∀ d ∈ log, d.errand.snapshot.IsSound .roundRobin

/-- What is given out next is the next turn, as long as the cursor has not started over. -/
theorem IsRotating.pick (hs : IsRotating log s) (hfew : log.length < UInt64.size) {j : Nat} {e : Errand}
    {resolution : Resolution} (hsound : e.snapshot.IsSound .roundRobin)
    (hstep : Step p s (.visit j .pick) s') (hv : s'.visits j = .chosen e resolution) :
    IsRotating (log ++ [⟨j, e, resolution.endpoint⟩]) s' := by
  obtain ⟨hstrategy, -⟩ := hsound.strategy_and_nodup e.rule_eq
  have hvisit := hstep.visit_of_pick
  rw [hv] at hvisit
  obtain ⟨hendpoint, hcursor⟩ := hvisit.eq_of_pick (by rw [hstrategy]; nofun)
  rw [Rule.pick_of_roundRobin hstrategy] at hendpoint hcursor
  rw [hs.turns] at hendpoint
  rw [UInt64.toNat_ofNat_of_lt' hfew] at hendpoint
  refine ⟨?_, ?_, ?_⟩
  · rw [hcursor, Cursor.turned, hs.turns, List.length_append, UInt64.ofNat_add]
    rfl
  · intro k d hk
    rcases Nat.lt_trichotomy k log.length with hlt | heq | hgt
    · rw [List.getElem?_append_left hlt] at hk
      exact hs.turn k d hk
    · subst heq
      rw [List.getElem?_concat_length] at hk
      rw [← Option.some.inj hk]
      exact hendpoint
    · rw [List.getElem?_eq_none (by rw [List.length_append]; exact hgt)] at hk
      cases hk
  · intro d hd
    rcases List.mem_append.1 hd with hd | hd
    · exact hs.sound d hd
    · rw [List.mem_singleton.1 hd]
      exact hsound

theorem IsIdle.isRotating (hstart : start.IsIdle) (hstrategy : start.router.strategy = .roundRobin)
    (hcursor : start.router.cursor.turns = 0) (h : Dispatches p start trace log s)
    (hfew : log.length ≤ UInt64.size) : IsRotating log s := by
  induction h with
  | nil =>
    refine ⟨hcursor, ?_, List.forall_mem_nil _⟩
    intro k d hk
    cases hk
  | @pick trace log s s' j e resolution hlog hstep hv ih =>
    rw [List.length_append] at hfew
    have hlt : log.length < UInt64.size := hfew
    have hsound : e.snapshot.IsSound start.router.strategy :=
      hstart.isSound_errand (hlog.run.snoc hstep) (j := j) (by rw [hv]; rfl)
    rw [hstrategy] at hsound
    exact (ih (Nat.le_of_lt hlt)).pick hlt hsound hstep hv
  | other hlog hstep hl ih =>
    obtain ⟨hcount, hturn, hsound⟩ := ih hfew
    exact ⟨(congrArg Cursor.turns (hstep.cursor_eq hl)).trans hcount, hturn, hsound⟩

/-- What was given out in a row under one rule were turns of this rule in a row. -/
theorem IsRotating.endpoints_eq {before stretch after : List Dispatch} {rule : Rule}
    (hs : IsRotating (before ++ stretch ++ after) s) (hrule : ∀ d ∈ stretch, d.errand.rule = rule) :
    stretch.map Dispatch.endpoint = (List.range' before.length stretch.length).map rule.turn := by
  apply List.ext_getElem
  · simp
  · intro k hk _
    rw [List.length_map] at hk
    have hplace : (before ++ stretch ++ after)[before.length + k]? = some stretch[k] := by
      rw [List.append_assoc, List.getElem?_append_right (Nat.le_add_right _ _), Nat.add_sub_cancel_left,
        List.getElem?_append_left hk, List.getElem?_eq_getElem hk]
    have hturn := hs.turn _ _ hplace
    rw [hrule stretch[k] (List.getElem_mem hk)] at hturn
    rw [List.getElem_map, List.getElem_map, List.getElem_range', hturn, Nat.one_mul]

theorem IsRotating.countP_le {before stretch after : List Dispatch} {rule : Rule}
    (hs : IsRotating (before ++ stretch ++ after) s) (hrule : ∀ d ∈ stretch, d.errand.rule = rule)
    {a b : Endpoint} (ha : a ∈ rule.selection) (hb : b ∈ rule.selection) :
    stretch.countP (·.endpoint.same a) ≤ stretch.countP (·.endpoint.same b) + 1 := by
  have hcount : ∀ e : Endpoint, stretch.countP (·.endpoint.same e) =
      ((List.range' before.length stretch.length).map rule.turn).countP (·.same e) := by
    intro e
    rw [← hs.endpoints_eq hrule, List.countP_map]
    rfl
  cases stretch with
  | nil => exact Nat.zero_le _
  | cons d stretch =>
    have hsound := hs.sound d (List.mem_append_left _ (List.mem_append_right _ List.mem_cons_self))
    have hnodup := (hsound.strategy_and_nodup d.errand.rule_eq).2
    rw [hrule d List.mem_cons_self] at hnodup
    rw [hcount a, hcount b]
    exact Rule.countP_turn_le hnodup _ _ ha hb

/-- **Taking turns is fair.**  However the strategy was used before, on whatever selections: of any picks in a
row from one selection, every index gets as many as the number of picks divided by that of endpoints says,
rounded up or down, and there is no other index.  In any order of refreshes and requests, each request gets
one endpoint at most, those without a key get it from their rule, and all that is sent goes there; of
requests without a key that one rule gave endpoints to in a row, no endpoint got more than one in excess of
another.  All this holds as long as there were no more than 2⁶⁴ picks at all.  What the rules gave to whom
can be told of every run. -/
theorem round_robin_balanced :
    (∀ (history : List (List Endpoint)) (selection : List Endpoint) (m : Nat) (start : Cursor),
      selection ≠ [] → start.turns = 0 → history.length + m ≤ UInt64.size →
      let cursor := Strategy.roundRobin.cursorAfter history start
      let picked := (Strategy.roundRobin.picks selection m cursor).1
      picked.length = m ∧ IsBalanced selection.length picked) ∧
    (∀ (p : Proxy) (start s : System) (trace : List Label) (log : List Dispatch), start.IsIdle →
      start.router.strategy = .roundRobin → start.router.cursor.turns = 0 →
      Dispatches p start trace log s → log.length ≤ UInt64.size →
      (log.map Dispatch.request).Nodup ∧
      (∀ d ∈ log, ∀ out ∈ (recordOf d.request trace).sent, out.GoesTo d.endpoint) ∧
      (∀ j e, (s.visits j).errand? = some e → e.key = none → (s.visits j).hasChosen = true →
        ∃ d ∈ log, d.request = j ∧ d.errand = e) ∧
      ∀ before stretch after rule, log = before ++ stretch ++ after →
        (∀ d ∈ stretch, d.errand.key = none ∧ d.errand.rule = rule) →
        ∀ a ∈ rule.selection, ∀ b ∈ rule.selection,
          stretch.countP (·.endpoint.same a) ≤ stretch.countP (·.endpoint.same b) + 1) ∧
    ∀ (p : Proxy) (start s : System) (trace : List Label), Run p start trace s →
      ∃ log, Dispatches p start trace log s := by
  refine ⟨?_, ?_, fun _ _ _ _ => Run.exists_dispatches⟩
  · intro history selection m start hne hstart hfew
    exact ⟨Strategy.length_picks _ _ _ _, Strategy.isBalanced_picks_roundRobin hne hstart hfew⟩
  · intro p start s trace log hstart hstrategy hcursor h hfew
    obtain ⟨hnodup, hfollowed⟩ := hstart.isFollowed h
    have hrotating := hstart.isRotating hstrategy hcursor h hfew
    refine ⟨hnodup, fun d hd => (hfollowed d hd).sent, fun j e => hstart.exists_dispatch h, ?_⟩
    rintro before stretch after rule rfl hstretch a ha b hb
    exact hrotating.countP_le (fun d hd => (hstretch d hd).2) ha hb

/-- Two backends that are taken in turn. -/
def twoBackends : Rule :=
  ⟨[{ scheme := "http", authority := "a:8080" }, { scheme := "http", authority := "b:8080" }], .roundRobin,
    List.cons_ne_nil _ _⟩

/-- A first pass finds the two backends. -/
theorem dispatches_published :
    ∃ trace s, Dispatches {} (idle rotating) trace [] s ∧ s.router.state.rule = some twoBackends ∧
      s.router.cursor = 0 ∧ s.router.affinity = rotating.affinity ∧ ∀ j, s.visits j = .absent := by
  have h1 := (Dispatches.nil (p := {})).other
    (.call (s := idle rotating) (i := 0) rfl (.takeTurn rfl)) rfl
  have h2 := h1.other (.call (i := 0) rfl (.collect [] [⟨"static", .ok twoBackends.selection⟩])) rfl
  have h3 := h2.other (.call (i := 0) rfl .read) rfl
  have h4 := h3.other (.call (i := 0) rfl .publish) rfl
  have hafter : (({} : RouterState).after
      (Selection.make .roundRobin [⟨"static", .ok twoBackends.selection⟩] 0) .roundRobin).rule =
        some twoBackends := rfl
  exact ⟨_, _, h4, (congrArg RouterState.rule (Router.state_publish _ _ _)).trans hafter, rfl, rfl,
    fun _ => rfl⟩

/-- Three requests without a key are under way at the same time. -/
theorem dispatches_three :
    ∃ trace log s, Dispatches {} (idle rotating) trace log s ∧
      log.map (·.endpoint.authority) = ["a:8080", "b:8080", "a:8080"] ∧
      ∀ d ∈ log, d.errand.key = none ∧ d.errand.rule = twoBackends := by
  obtain ⟨trace, s, h, hrule, hcursor, haffinity, habsent⟩ := dispatches_published
  have hkey : s.router.affinity.clientKey rootRequest.headers none = none := by
    rw [haffinity]
    rfl
  have h1 := h.other (.visit (j := 0) (habsent 0) (.load rootRequest none hrule)) rfl
  have h2 := h1.other (.visit (j := 1) (habsent 1) (.load rootRequest none hrule)) rfl
  have h3 := h2.other (.visit (j := 2) (habsent 2) (.load rootRequest none hrule)) rfl
  have h4 := h3.other (.visit (j := 0) rfl (.unbound hkey)) rfl
  have h5 := h4.other (.visit (j := 1) rfl (.unbound hkey)) rfl
  have h6 := h5.other (.visit (j := 2) rfl (.unbound hkey)) rfl
  have h7 := h6.pick (.visit (j := 1) rfl .pick) rfl
  have h8 := h7.pick (.visit (j := 0) rfl .pick) rfl
  have h9 := h8.pick (.visit (j := 2) rfl .pick) rfl
  refine ⟨_, _, _, h9, ?_, ?_⟩
  · have hpicks : ∀ cursor : Cursor, cursor = 0 →
        [(twoBackends.pick cursor).1.authority,
          (twoBackends.pick (twoBackends.pick cursor).2).1.authority,
          (twoBackends.pick (twoBackends.pick (twoBackends.pick cursor).2).2).1.authority] =
        ["a:8080", "b:8080", "a:8080"] := by
      rintro cursor rfl
      decide
    exact hpicks s.router.cursor hcursor
  · simp only [List.nil_append, List.cons_append, List.forall_mem_cons]
    exact ⟨⟨hkey, trivial⟩, ⟨hkey, trivial⟩, ⟨hkey, trivial⟩, List.forall_mem_nil _⟩

/-- After two picks elsewhere, seven picks from three endpoints start at the third one, which gets three of
them.  Of the three requests, one backend gets two and the other one the third. -/
theorem round_robin_balanced_three :
    let three := twoBackends.selection ++ [{ scheme := "http", authority := "c:8080" }]
    let cursor := Strategy.roundRobin.cursorAfter [twoBackends.selection, [], twoBackends.selection] 0
    let picked := (Strategy.roundRobin.picks three 7 cursor).1
    (picked = [2, 0, 1, 2, 0, 1, 2] ∧ IsBalanced 3 picked) ∧
    ∃ trace log s, Dispatches {} (idle rotating) trace log s ∧
      log.map (·.endpoint.authority) = ["a:8080", "b:8080", "a:8080"] ∧
      (∀ d ∈ log, ∀ out ∈ (recordOf d.request trace).sent, out.GoesTo d.endpoint) ∧
      ∀ a ∈ twoBackends.selection, ∀ b ∈ twoBackends.selection,
        log.countP (·.endpoint.same a) ≤ log.countP (·.endpoint.same b) + 1 := by
  intro three cursor picked
  obtain ⟨hpicks, hruns, -⟩ := round_robin_balanced
  obtain ⟨-, hbalanced⟩ :=
    hpicks [twoBackends.selection, [], twoBackends.selection] three 7 0 (List.cons_ne_nil _ _) rfl (by decide)
  refine ⟨⟨by decide, hbalanced⟩, ?_⟩
  obtain ⟨trace, log, s, h, hauthorities, hkeyless⟩ := dispatches_three
  have hlength : log.length = 3 := by simpa using congrArg List.length hauthorities
  obtain ⟨-, hsent, -, hfair⟩ := hruns {} (idle rotating) s trace log (isIdle_idle rfl rfl) rfl rfl h
    (by rw [hlength]; decide)
  exact ⟨trace, log, s, h, hauthorities, hsent, hfair [] log [] twoBackends (by simp) hkeyless⟩

end System

end Switchyard
