/-
Clients are told apart by their keys.

A key is the text of an option, `=`, and the value found.  A header name has no `=`, and a cookie whose
name had one would never be found, because cookies are cut at their first `=`; so the first `=` of a key
always ends the option (`notMem_text_of_value?`).  `eq_of_clientKey` is what two equal keys say, and
`eq_of_firstKey` says it of the key that a list of options gives.
-/
import Switchyard.Affinity
import Switchyard.Proofs.Affinity.Grammar
import Switchyard.Proofs.Net.Address

namespace Switchyard

namespace AffinityOption

variable {s s₁ s₂ name value key : String} {o o₁ o₂ : AffinityOption}
  {headers headers₁ headers₂ : Http.Headers} {peer peer₁ peer₂ : Option Net.SocketAddr}

/-! ## Values -/

theorem equals_notMem_of_isFieldName (h : Http.isFieldName name = true) : '=' ∉ name.toList := by
  intro hmem
  simp only [Http.isFieldName, Bool.and_eq_true, List.all_eq_true] at h
  have hchar : Http.isNameChar '=' = true := h.2 '=' hmem
  exact absurd hchar (by decide)

/-- A cookie that is found has no `=` in its name. -/
theorem equals_notMem_of_cookieValue {lines : List String} (h : cookieValue lines name = some value) :
    '=' ∉ name.toList := by
  simp only [cookieValue, Option.map_eq_some_iff] at h
  obtain ⟨cookie, hfind, -⟩ := h
  have hname : cookie.1 = name.toList := by simpa using List.find?_some hfind
  have hmem := List.mem_of_find?_eq_some hfind
  simp only [cookies, List.mem_flatMap, List.mem_filterMap] at hmem
  obtain ⟨line, -, pair, -, hread⟩ := hmem
  rw [← hname]
  exact (Text.eq_append_of_splitOnce (b := cookie.2) hread).2

/-- An option that was read and that finds a value has no `=` in its text. -/
theorem notMem_text_of_value? (hparse : parse s = .ok o) (hvalue : o.value? headers peer = some value) :
    '=' ∉ o.text.toList := by
  cases o with
  | header name =>
      have hname := equals_notMem_of_isFieldName (parse_eq_ok_iff.1 hparse).1
      simp [text, hname]
  | cookie name =>
      have hname := equals_notMem_of_cookieValue hvalue
      simp [text, hname]
  | sourceAddress => decide

/-- A key is the text of the option and the value it found. -/
theorem clientKey_eq_some :
    o.clientKey headers peer = some key ↔
      ∃ value, o.value? headers peer = some value ∧ value ≠ "" ∧ key = o.text ++ "=" ++ value := by
  unfold clientKey
  cases hvalue : o.value? headers peer with
  | none => simp
  | some value =>
      by_cases hempty : value = ""
      · simp [hempty]
      · have hfull : value.isEmpty = false := by simpa using hempty
        simp only [hfull, Bool.false_eq_true, if_false, Option.some.injEq]
        constructor
        · rintro rfl
          exact ⟨value, rfl, hempty, rfl⟩
        · rintro ⟨_, rfl, -, rfl⟩
          rfl

/-! ## Keys -/

/-- Equal keys come from one option and one value. -/
theorem eq_of_clientKey (hparse₁ : parse s₁ = .ok o₁) (hparse₂ : parse s₂ = .ok o₂)
    (hkey₁ : o₁.clientKey headers₁ peer₁ = some key)
    (hkey₂ : o₂.clientKey headers₂ peer₂ = some key) :
    o₁ = o₂ ∧ ∃ value, o₁.value? headers₁ peer₁ = some value ∧
      o₂.value? headers₂ peer₂ = some value := by
  obtain ⟨value₁, hvalue₁, -, htext₁⟩ := clientKey_eq_some.1 hkey₁
  obtain ⟨value₂, hvalue₂, -, htext₂⟩ := clientKey_eq_some.1 hkey₂
  have hcut : o₁.text.toList ++ '=' :: value₁.toList = o₂.text.toList ++ '=' :: value₂.toList := by
    have hboth := congrArg String.toList (htext₁.symm.trans htext₂)
    simpa [String.toList_append] using hboth
  obtain ⟨htext, hvalue⟩ := Text.append_cons_inj (notMem_text_of_value? hparse₁ hvalue₁)
    (notMem_text_of_value? hparse₂ hvalue₂) hcut
  constructor
  · -- Options with one text were read from one text.
    have hread : s₁ = s₂ := by
      rw [← (parse_eq_ok_iff.1 hparse₁).2, ← (parse_eq_ok_iff.1 hparse₂).2]
      exact String.toList_inj.1 htext
    rw [hread, hparse₂] at hparse₁
    exact (Except.ok.inj hparse₁).symm
  · rw [← String.toList_inj.1 hvalue] at hvalue₂
    exact ⟨value₁, hvalue₁, hvalue₂⟩

/-- Equal keys of lists of options come from an option that both lists have. -/
theorem eq_of_firstKey {options₁ options₂ : List AffinityOption}
    (hread₁ : ∀ o ∈ options₁, ∃ s, parse s = .ok o) (hread₂ : ∀ o ∈ options₂, ∃ s, parse s = .ok o)
    (hkey₁ : firstKey options₁ headers₁ peer₁ = some key)
    (hkey₂ : firstKey options₂ headers₂ peer₂ = some key) :
    ∃ o, o ∈ options₁ ∧ o ∈ options₂ ∧
      ∃ value, o.value? headers₁ peer₁ = some value ∧ o.value? headers₂ peer₂ = some value := by
  obtain ⟨o₁, hmem₁, hfound₁⟩ := List.exists_of_findSome?_eq_some hkey₁
  obtain ⟨o₂, hmem₂, hfound₂⟩ := List.exists_of_findSome?_eq_some hkey₂
  obtain ⟨s₁, hparse₁⟩ := hread₁ o₁ hmem₁
  obtain ⟨s₂, hparse₂⟩ := hread₂ o₂ hmem₂
  obtain ⟨rfl, hvalue⟩ := eq_of_clientKey hparse₁ hparse₂ hfound₁ hfound₂
  exact ⟨o₁, hmem₁, hmem₂, hvalue⟩

/-! ## Addresses -/

theorem exists_of_value?_sourceAddress {value : String}
    (h : sourceAddress.value? headers peer = some value) :
    ∃ p, peer = some p ∧ value = String.ofList p.ip.text := by
  obtain ⟨p, hpeer, htext⟩ := Option.map_eq_some_iff.1 h
  exact ⟨p, hpeer, htext.symm⟩

theorem ofList_text_inj {p q : Net.SocketAddr} :
    String.ofList p.ip.text = String.ofList q.ip.text ↔ p.ip = q.ip :=
  ⟨fun h => Net.IpAddr.text_injective (String.ofList_inj.1 h), fun h => by rw [h]⟩

/-- Every peer has a key. -/
theorem clientKey_sourceAddress (headers : Http.Headers) (p : Net.SocketAddr) :
    sourceAddress.clientKey headers (some p) =
      some (sourceAddress.text ++ "=" ++ String.ofList p.ip.text) := by
  refine clientKey_eq_some.2 ⟨_, rfl, ?_, rfl⟩
  intro hempty
  have hnil : p.ip.text = [] := by
    have := congrArg String.toList hempty
    simpa using this
  exact p.ip.text_ne_nil hnil

/-- **Client keys never collide**: equal keys of two requests come from one option and one header
value, cookie value or address, and two peers have one key exactly if they have one address, whatever
their ports.  Equal keys that two lists of options give come from an option of both lists. -/
theorem clientKeys_never_collide :
    (∀ (s₁ s₂ : String) (o₁ o₂ : AffinityOption) (headers₁ headers₂ : Http.Headers)
      (peer₁ peer₂ : Option Net.SocketAddr) (key : String),
      parse s₁ = .ok o₁ → parse s₂ = .ok o₂ →
      o₁.clientKey headers₁ peer₁ = some key → o₂.clientKey headers₂ peer₂ = some key →
        o₁ = o₂ ∧
        (∃ value, o₁.value? headers₁ peer₁ = some value ∧ o₂.value? headers₂ peer₂ = some value) ∧
        (o₁ = .sourceAddress → ∃ p q, peer₁ = some p ∧ peer₂ = some q ∧ p.ip = q.ip)) ∧
    (∀ (headers₁ headers₂ : Http.Headers) (p q : Net.SocketAddr),
      ∃ key₁ key₂, sourceAddress.clientKey headers₁ (some p) = some key₁ ∧
        sourceAddress.clientKey headers₂ (some q) = some key₂ ∧ (key₁ = key₂ ↔ p.ip = q.ip)) ∧
    ∀ (options₁ options₂ : List AffinityOption) (headers₁ headers₂ : Http.Headers)
      (peer₁ peer₂ : Option Net.SocketAddr) (key : String),
      (∀ o ∈ options₁, ∃ s, parse s = .ok o) → (∀ o ∈ options₂, ∃ s, parse s = .ok o) →
      firstKey options₁ headers₁ peer₁ = some key → firstKey options₂ headers₂ peer₂ = some key →
        ∃ o, o ∈ options₁ ∧ o ∈ options₂ ∧
          ∃ value, o.value? headers₁ peer₁ = some value ∧ o.value? headers₂ peer₂ = some value := by
  refine ⟨?_, ?_, fun _ _ _ _ _ _ _ hread₁ hread₂ => eq_of_firstKey hread₁ hread₂⟩
  · intro s₁ s₂ o₁ o₂ headers₁ headers₂ peer₁ peer₂ key hparse₁ hparse₂ hkey₁ hkey₂
    obtain ⟨rfl, value, hvalue₁, hvalue₂⟩ := eq_of_clientKey hparse₁ hparse₂ hkey₁ hkey₂
    refine ⟨rfl, ⟨value, hvalue₁, hvalue₂⟩, ?_⟩
    rintro rfl
    obtain ⟨p, hp, htext⟩ := exists_of_value?_sourceAddress hvalue₁
    obtain ⟨q, hq, htext'⟩ := exists_of_value?_sourceAddress hvalue₂
    exact ⟨p, q, hp, hq, ofList_text_inj.1 (htext.symm.trans htext')⟩
  · intro headers₁ headers₂ p q
    refine ⟨_, _, clientKey_sourceAddress headers₁ p, clientKey_sourceAddress headers₂ q, ?_⟩
    rw [← ofList_text_inj]
    constructor
    · intro h
      have hlist := congrArg String.toList h
      simp only [String.toList_append, List.append_cancel_left_eq] at hlist
      exact String.toList_inj.1 hlist
    · intro h
      rw [h]

/-- Two visits of a client that sends its session cookie among others, from two ports. -/
theorem clientKeys_of_session :
    ∃ p q : Net.SocketAddr, p ≠ q ∧
      (cookie "session").clientKey [("cookie", "theme=dark; session=ab=12")] (some p) =
        some "cookie:session=ab=12" ∧
      (cookie "session").clientKey [("cookie", "session=ab=12")] (some q) =
        some "cookie:session=ab=12" ∧
      ∃ value, (cookie "session").value? [("cookie", "theme=dark; session=ab=12")] (some p) = some value ∧
        (cookie "session").value? [("cookie", "session=ab=12")] (some q) = some value := by
  have hread : parse "cookie:session" = .ok (cookie "session") := by decide +kernel
  have hfirst : (cookie "session").clientKey [("cookie", "theme=dark; session=ab=12")]
      (some (.v4 ⟨10, 1, 2, 3⟩ 50000)) = some "cookie:session=ab=12" := by decide +kernel
  have hsecond : (cookie "session").clientKey [("cookie", "session=ab=12")]
      (some (.v4 ⟨10, 1, 2, 3⟩ 50001)) = some "cookie:session=ab=12" := by decide +kernel
  exact ⟨_, _, by decide, hfirst, hsecond,
    (clientKeys_never_collide.1 _ _ _ _ _ _ _ _ _ hread hread hfirst hsecond).2.1⟩

end AffinityOption

end Switchyard
