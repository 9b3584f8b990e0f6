/-
Fields that concern a single connection.

Which fields of a request are for one connection only is settled by a fixed list of names, by the field
that announces trailing fields, and by what the `connection` fields of the request itself name
(`IsHopByHop`).  Requests are sent on by the list alone: no listed field is ever sent
(`stripped_by_list`), and what `connection` says makes no difference to what is, so that a field may be
sent although it was named there (`nominated_field_is_sent`).
-/
import Switchyard.Proofs.Service.Forwarding

namespace Switchyard

namespace Http.Headers

/-- What the `connection` fields name: the pieces between commas, without blanks around them, in the case
that field names are kept in. -/
def connectionOptions (h : Headers) : List String :=
  (h.values "connection").flatMap fun v =>
    (Text.splitAll ',' v.toList).map fun piece =>
      fieldName (String.ofList (Text.trim AffinityOption.isBlank piece))

/-- A field of this name in a request is for one connection only. -/
def IsHopByHop (h : Headers) (name : String) : Prop :=
  name ∈ Proxy.hopByHop ∨ name = "trailer" ∨ name ∈ h.connectionOptions

end Http.Headers

namespace Proxy

variable {h h' : Http.Headers}

theorem not_mem_hopByHop_of_forwarded {f : String × String} (hf : f ∈ forwarded h) :
    f.1 ∉ hopByHop := by
  intro hlisted
  exact (Http.Headers.mem_without.1 hf).2 (List.mem_cons_of_mem "host" hlisted)

/-- The fields of a name are sent on, all of them or none. -/
theorem values_forwarded (h : Http.Headers) (name : String) :
    (forwarded h).values name =
      if Http.fieldName name ∈ "host" :: hopByHop then [] else h.values name := by
  split
  · rename_i hlisted
    exact Http.Headers.values_without_of_mem hlisted
  · rename_i hother
    exact Http.Headers.values_without hother

/-- The `connection` fields are gone before anything could depend on them. -/
theorem forwarded_without_connection (h : Http.Headers) :
    forwarded (h.without ["connection"]) = forwarded h := by
  rw [forwarded, Http.Headers.without, Http.Headers.without, List.filter_filter]
  apply List.filter_congr
  intro f _
  by_cases hconnection : f.1 = "connection"
  · simp [hconnection, hopByHop]
  · simp [hconnection]

/-- Requests that differ in what their `connection` fields say have the same fields sent on. -/
theorem forwarded_congr (heq : h'.without ["connection"] = h.without ["connection"]) :
    forwarded h' = forwarded h := by
  rw [← forwarded_without_connection h', heq, forwarded_without_connection]

end Proxy

namespace Service

variable {τ : Type} {s : Service τ} {p : Proxy} {req : Http.Request} {peer : Option Net.SocketAddr}
  {a : Attempt}

/-- Every attempt is made with the fields that are sent on, and with no others. -/
theorem headers_of_mem_attempts (ha : a ∈ s.attempts p req peer) :
    a.sent.headers = Proxy.forwarded req.headers := by
  have hmade := List.ne_nil_of_mem ha
  obtain ⟨result, s', hhandle⟩ := exists_handle_of_attempts hmade
  obtain ⟨rule, e, out, earlier, last, -, -, hout, hsame, -⟩ := (handled hhandle).sent hmade
  obtain ⟨uri, body, -, -, rfl⟩ := Proxy.outgoing_eq_ok hout
  rw [hsame a ha]

/-- **Fields are stripped by a fixed list.**  No attempt carries a listed field, in whatever case its name
is asked for.  A field that a `connection` field of the request names is no exception to what the list
says: it is sent with all its values, or not at all if it is listed itself.  (What becomes of the field
that announces trailing fields is left open.)  Nor do the `connection` fields matter to any other one:
attempts for requests that differ in nothing else about their fields carry the same fields. -/
theorem stripped_by_list (ha : a ∈ s.attempts p req peer) :
    (∀ f ∈ a.sent.headers, f.1 ∉ Proxy.hopByHop) ∧
    (∀ name, Http.fieldName name ∈ Proxy.hopByHop → a.sent.headers.values name = []) ∧
    (∀ name, Http.fieldName name ∈ req.headers.connectionOptions → Http.fieldName name ≠ "trailer" →
      a.sent.headers.values name =
        if Http.fieldName name ∈ "host" :: Proxy.hopByHop then [] else req.headers.values name) ∧
    (∀ {υ : Type} (t : Service υ) (p' : Proxy) (req' : Http.Request) (peer' : Option Net.SocketAddr),
      req'.headers.without ["connection"] = req.headers.without ["connection"] →
      ∀ b ∈ t.attempts p' req' peer', b.sent.headers = a.sent.headers) := by
  rw [headers_of_mem_attempts ha]
  refine ⟨fun f => Proxy.not_mem_hopByHop_of_forwarded, ?_, ?_, ?_⟩
  · intro name hlisted
    rw [Proxy.values_forwarded, if_pos (List.mem_cons_of_mem "host" hlisted)]
  · intro name _ _
    exact Proxy.values_forwarded req.headers name
  · intro υ t p' req' peer' heq b hb
    rw [headers_of_mem_attempts hb]
    exact Proxy.forwarded_congr heq

/-- A request whose `connection` field names a listed field, in a case of its own, and one that is not
listed; it announces a trailing field as well. -/
def nominating : Http.Request :=
  { method := "GET"
    uri := ⟨none, [], "/".toList⟩
    headers := [("connection", "Keep-Alive, X-Trace"), ("keep-alive", "timeout=5"), ("x-trace", "7"),
      ("trailer", "expires"), ("x-trace", "8")]
    body := [] }

/-- Of the two fields that `connection` names one is stripped, and the other is sent with both values. -/
theorem stripped_by_list_nominating :
    ∃ a ∈ (scripted [] [.ok { status := 200 }]).attempts {} nominating none,
      a.sent.headers.values "Keep-Alive" = [] ∧ a.sent.headers.values "X-Trace" = ["7", "8"] := by
  have hsent : ((scripted [] [.ok { status := 200 }]).attempts {} nominating none).length = 1 := by
    decide +kernel
  obtain ⟨a, hone⟩ := List.length_eq_one_iff.1 hsent
  have ha : a ∈ (scripted [] [.ok { status := 200 }]).attempts {} nominating none := by simp [hone]
  obtain ⟨-, hlisted, hnamed, -⟩ := stripped_by_list ha
  refine ⟨a, ha, hlisted "Keep-Alive" (by decide +kernel), ?_⟩
  rw [hnamed "X-Trace" (by decide +kernel) (by decide +kernel)]
  decide +kernel

/-- All that this request has sent are fields for one connection only. -/
theorem nominated_field_is_sent :
    ∃ a ∈ (scripted [] [.ok { status := 200 }]).attempts {} nominating none,
      a.sent.headers = [("x-trace", "7"), ("trailer", "expires"), ("x-trace", "8")] ∧
        ∀ f ∈ a.sent.headers, nominating.headers.IsHopByHop f.1 := by
  have hsent : ((scripted [] [.ok { status := 200 }]).attempts {} nominating none).map
      (·.sent.headers) = [[("x-trace", "7"), ("trailer", "expires"), ("x-trace", "8")]] := by
    decide +kernel
  obtain ⟨a, ha, hheaders⟩ := List.mem_map.1 (hsent ▸ List.mem_singleton_self _)
  have hnamed : "x-trace" ∈ nominating.headers.connectionOptions := by decide +kernel
  refine ⟨a, ha, hheaders, ?_⟩
  rw [hheaders]
  intro f hf
  simp only [List.mem_cons, List.not_mem_nil, or_false] at hf
  rcases hf with rfl | rfl | rfl
  · exact Or.inr (Or.inr hnamed)
  · exact Or.inr (Or.inl rfl)
  · exact Or.inr (Or.inr hnamed)

end Service

end Switchyard
