/-
Endpoints that no target can be pointed at.

The schemes and hosts that URLs may have are not those that targets may have: a scheme may be too long, and a
host may hold characters that cannot be written, or escapes.  `Endpoint.obstacle?` finds them in the text of
an endpoint, and whether a target can be pointed at an endpoint that was read depends on nothing else
(`IsRead.build_eq`).
-/
import Switchyard.Proofs.Http.Authority
import Switchyard.Proofs.Http.Form
import Switchyard.Proofs.Idna.Allowed
import Switchyard.Proofs.Url.Site

namespace Switchyard

open Http.Uri (checkAuthority checkScheme isUriChar isWritable)

/-! ## Obstacles -/

namespace Endpoint

/-- Quotation marks, backquotes and braces, which hosts may hold and targets may not. -/
def unwritable : List Char := ['\x22', '\x60', '\x7b', '\x7d']

/-- Why an authority of a URL is not one of a target. -/
def authorityObstacle? (authority : List Char) : Option Http.UriError :=
  if authority.any (· ∈ unwritable) then some .invalidCharacter
  else if '%' ∈ authority then some .invalidAuthority
  else none

/-- Why no target can be pointed at an endpoint, as far as its text says. -/
def obstacle? (e : Endpoint) : Option Http.UriError :=
  if Http.Uri.maxScheme < e.scheme.length then some .schemeTooLong
  else authorityObstacle? e.authority.toList

end Endpoint

namespace Url

open Endpoint (authorityObstacle? unwritable)

variable {scheme cs : List Char} {special : Bool} {host : Host} {port : Option UInt16} {c : Char}

/-! ## Schemes -/

theorem IsScheme.checkScheme_eq (h : IsScheme scheme) :
    checkScheme scheme =
      if Http.Uri.maxScheme < scheme.length then .error .schemeTooLong else .ok scheme := by
  have hlength : (Text.Utf8.encode scheme).length = scheme.length :=
    Text.Utf8.length_encode fun c hc => (h.chars c hc).1.toNat_lt
  have hall : scheme.all Http.Uri.isSchemeChar = true := by
    rw [List.all_eq_true]
    intro c hc
    rcases (h.chars c hc).1 with halphanum | rfl | rfl | rfl
    · simp [Http.Uri.isSchemeChar, halphanum]
    · decide
    · decide
    · decide
  rw [checkScheme, if_pos hall]
  split
  · -- the schemes of the web are short
    rename_i hweb
    rcases hweb with rfl | rfl
    · rfl
    · rfl
  · rw [hlength]

/-! ## Characters of authorities -/

/-- A character that neither ends nor divides an authority, and can be written but for the few that hosts may
hold and targets may not. -/
def IsPlainChar (c : Char) : Prop :=
  c ∉ ['/', '?', '#'] ∧ c ∉ ['[', ']', '@'] ∧ isWritable c = !decide (c ∈ unwritable)

instance (c : Char) : Decidable (IsPlainChar c) := inferInstanceAs (Decidable (_ ∧ _ ∧ _))

/-- A character of a host that is a name. -/
def IsHostChar (c : Char) : Prop := isForbiddenHostChar c = false ∧ isControlOrWide c = false

instance (c : Char) : Decidable (IsHostChar c) := inferInstanceAs (Decidable (_ ∧ _))

theorem IsHostChar.isPlainChar (h : IsHostChar c) : IsPlainChar c ∧ c ≠ ':' := by
  have hc := toNat_lt_of_isControlOrWide h.2
  revert h
  exact of_ascii hc (by decide +kernel)

theorem isHostChar_of_isAllowed (h : Idna.IsAllowed c) : IsHostChar c := by
  have hc := h.1
  revert h
  exact of_ascii hc (by decide +kernel)

/-- A digit of either base, a dot or a colon. -/
def IsAddressChar (c : Char) : Prop := Text.hexValue? c ≠ none ∨ c = '.' ∨ c = ':'

theorem IsAddressChar.isPlainChar (h : IsAddressChar c) :
    IsPlainChar c ∧ isUriChar c = true ∧ c ∉ unwritable ∧ c ≠ '%' := by
  rcases h with hdigit | rfl | rfl
  · have hc := toNat_lt_of_hexValue? hdigit
    revert hdigit
    exact of_ascii hc (by decide +kernel)
  · decide
  · decide

theorem isAddressChar_of_mem_ipv4 {ip : Net.Ipv4} (hc : c ∈ ip.text) : IsAddressChar c :=
  (Net.Ipv4.mem_text_cases hc).elim (fun hdot => .inr (.inl hdot)) fun hdigit =>
    .inl (Text.hexValue?_ne_none_of_isDigit hdigit)

theorem isAddressChar_of_mem_ipv6 {ip : Net.Ipv6} (hc : c ∈ ip.text) : IsAddressChar c := by
  by_cases hcolon : c = ':'
  · exact .inr (.inr hcolon)
  · exact .inl fun hnone => ip.notMem_text hnone hcolon hc

theorem isAddressChar_of_mem_portText (hc : c ∈ portText port) : IsAddressChar c := by
  cases port with
  | none => cases hc
  | some port =>
    rcases List.mem_cons.1 hc with rfl | hdigit
    · exact .inr (.inr rfl)
    · exact .inl fun hnone => Text.notMem_decimal hnone _ hdigit

theorem count_colon_portText_le (port : Option UInt16) : (portText port).count ':' ≤ 1 := by
  cases port with
  | none => exact Nat.zero_le 1
  | some port =>
    have hdigits : (Text.decimal port.toNat).count ':' = 0 :=
      List.count_eq_zero.2 (Text.notMem_decimal (by decide) _)
    rw [portText, List.count_cons_self, hdigits]

/-! ## Authorities -/

/-- Plain characters in front of a port, none of them a colon, are taken for an authority unless there is an
obstacle. -/
theorem checkAuthority_plain (hne : cs ≠ []) (hcs : ∀ c ∈ cs, IsPlainChar c ∧ c ≠ ':')
    (port : Option UInt16) :
    checkAuthority (cs ++ portText port) =
      (authorityObstacle? (cs ++ portText port)).elim (.ok (cs ++ portText port)) .error := by
  have hplain : ∀ c ∈ cs ++ portText port, IsPlainChar c := by
    intro c hc
    rcases List.mem_append.1 hc with hc | hc
    · exact (hcs c hc).1
    · exact (isAddressChar_of_mem_portText hc).isPlainChar.1
  have hcolons : (cs ++ portText port).count ':' ≤ 1 := by
    have hnone : cs.count ':' = 0 := List.count_eq_zero.2 fun hc => (hcs _ hc).2 rfl
    rw [List.count_append, hnone, Nat.zero_add]
    exact count_colon_portText_le port
  have hwritable : (cs ++ portText port).all isWritable =
      !(cs ++ portText port).any fun c => decide (c ∈ unwritable) := by
    rw [List.not_any_eq_all_not, Bool.eq_iff_iff, List.all_eq_true, List.all_eq_true]
    exact forall₂_congr fun c hc => by rw [(hplain c hc).2.2]
  have hfull : cs ++ portText port ≠ [] := List.append_ne_nil_of_left_ne_nil hne _
  rw [Http.Uri.checkAuthority_of_plain hfull (fun c hc => (hplain c hc).1) (fun c hc => (hplain c hc).2.1)
    hcolons, hwritable, authorityObstacle?]
  cases (cs ++ portText port).any fun c => decide (c ∈ unwritable) with
  | true => rfl
  | false =>
    simp only [Bool.not_false, if_true, Bool.false_eq_true, if_false]
    split
    · rfl
    · rfl

/-- There is no obstacle in what an address in brackets and its port are made of. -/
theorem checkAuthority_ipv6 (ip : Net.Ipv6) (port : Option UInt16) :
    checkAuthority ((Host.ipv6 ip).text ++ portText port) =
      (authorityObstacle? ((Host.ipv6 ip).text ++ portText port)).elim
        (.ok ((Host.ipv6 ip).text ++ portText port)) .error := by
  have haddress : ∀ c ∈ ip.text ++ portText port, IsAddressChar c := fun c hc =>
    (List.mem_append.1 hc).elim isAddressChar_of_mem_ipv6 isAddressChar_of_mem_portText
  have hfree : ∀ c ∈ (Host.ipv6 ip).text ++ portText port, c ∉ unwritable ∧ c ≠ '%' := by
    intro c hc
    have hcases : c = '[' ∨ c = ']' ∨ c ∈ ip.text ++ portText port := by
      simp only [Host.text, List.cons_append, List.mem_cons, List.mem_append, List.not_mem_nil] at hc ⊢
      tauto
    rcases hcases with rfl | rfl | hc
    · decide
    · decide
    · exact (haddress c hc).isPlainChar.2.2
  have hobstacle : authorityObstacle? ((Host.ipv6 ip).text ++ portText port) = none := by
    have hany : ((Host.ipv6 ip).text ++ portText port).any (fun c => decide (c ∈ unwritable)) ≠ true := by
      rw [Ne, List.any_eq_true]
      rintro ⟨c, hc, hmem⟩
      exact (hfree c hc).1 (of_decide_eq_true hmem)
    rw [authorityObstacle?, if_neg hany, if_neg fun hc => (hfree _ hc).2 rfl]
  have hshape : (Host.ipv6 ip).text ++ portText port = '[' :: (ip.text ++ ']' :: portText port) := by
    simp [Host.text]
  rw [hobstacle, hshape]
  exact Http.Uri.checkAuthority_bracketed (fun c hc => (haddress c hc).isPlainChar.1.1)
    (fun c hc => ⟨(haddress c hc).isPlainChar.2.1, (haddress c hc).isPlainChar.1.2.1⟩)
    (Nat.le_succ_of_le ip.count_colon_text_le) (count_colon_portText_le port)

theorem IsHost.checkAuthority_text (h : IsHost Idna.asWritten special host) (port : Option UInt16) :
    checkAuthority (host.text ++ portText port) =
      (authorityObstacle? (host.text ++ portText port)).elim (.ok (host.text ++ portText port)) .error := by
  cases h with
  | @domain d hascii hne _ =>
    refine checkAuthority_plain hne (fun c hc => ?_) port
    exact (isHostChar_of_isAllowed (Idna.isCanonical_asWritten.allowed hascii c hc)).isPlainChar
  | @plain cs hne hchars =>
    have hhost : ∀ c ∈ cs, IsHostChar c := hchars
    exact checkAuthority_plain hne (fun c hc => (hhost c hc).isPlainChar) port
  | ipv4 ip =>
    refine checkAuthority_plain (List.ne_nil_of_mem ip.dot_mem_text) (fun c hc => ⟨?_, ?_⟩) port
    · exact (isAddressChar_of_mem_ipv4 hc).isPlainChar.1
    · rintro rfl
      exact ip.colon_notMem_text hc
  | ipv6 _ ip => exact checkAuthority_ipv6 ip port

end Url

/-! ## Endpoints -/

namespace Endpoint

variable {e : Endpoint} {u : Http.Uri} {cause : Http.UriError}

/-- An endpoint that was read from a text.  What is known of its health and its history makes no difference. -/
def IsRead (e : Endpoint) : Prop := ∃ raw read, parse raw = .ok read ∧ read.identity = e.identity

/-- **What comes of pointing at an endpoint that was read** is told by its text, and by what is pointed at it
only where there is no obstacle. -/
theorem IsRead.build_eq (h : e.IsRead) (target : List Char) :
    Http.Uri.build e.scheme.toList e.authority.toList target =
      e.obstacle?.elim
        ((Http.Uri.readTarget target).map fun target => ⟨some e.scheme.toList, e.authority.toList, target⟩)
        .error := by
  obtain ⟨raw, read, hread, hidentity⟩ := h
  obtain ⟨scheme, host, port, hsite, rfl⟩ := exists_isSite_of_settles Idna.settles_toAscii hread
  obtain ⟨hscheme, hauthority⟩ := Prod.mk.inj hidentity
  rw [obstacle?, ← hscheme, ← hauthority, ofSite]
  simp only [String.toList_ofList, String.length_ofList]
  rw [Http.Uri.build, hsite.isScheme.checkScheme_eq]
  by_cases hlong : Http.Uri.maxScheme < scheme.length
  · rw [if_pos hlong, if_pos hlong]
    rfl
  · rw [if_neg hlong, if_neg hlong, hsite.isHost.checkAuthority_text port]
    cases authorityObstacle? (host.text ++ Url.portText port) with
    | some cause => rfl
    | none => cases Http.Uri.readTarget target <;> rfl

theorem IsRead.retarget_of_obstacle (h : e.IsRead) (hcause : e.obstacle? = some cause) (u : Http.Uri) :
    e.retarget u = .error cause := by
  rw [retarget, h.build_eq, hcause]
  rfl

theorem IsRead.retarget_of_none (h : e.IsRead) (hnone : e.obstacle? = none) (hu : u.IsTarget) :
    e.retarget u = .ok ⟨some e.scheme.toList, e.authority.toList, u.sent⟩ := by
  rw [retarget, ← Http.Uri.sent, h.build_eq, hnone, hu.readTarget_sent]
  rfl

end Endpoint

end Switchyard
