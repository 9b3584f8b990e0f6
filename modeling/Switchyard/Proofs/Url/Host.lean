/-
Hosts are read back from their text.

A host that was read is in a form of its own kind (`IsHost`): a domain that the conversion to ASCII leaves as
it is, a name without characters to escape, or an address.  The text of such a host is read as that host
(`IsHost.hostOf_text`) and holds nothing that ends or divides an authority (`IsHost.text_chars`).
-/
import Switchyard.Proofs.Except
import Switchyard.Proofs.Idna.Canonical
import Switchyard.Proofs.Net.Reading
import Switchyard.Url.Parser

namespace Switchyard

/-! ## Text without escapes -/

theorem Text.Percent.decode_of_notMem {cs : List Char} (h : '%' ∉ cs) :
    Percent.decode cs = Utf8.encode cs := by
  induction cs with
  | nil => simp [decode]
  | cons c cs ih =>
    rw [List.mem_cons, not_or] at h
    obtain ⟨hc, hcs⟩ := h
    rw [decode.eq_def]
    split
    · rename_i heq
      cases heq
      exact absurd rfl hc
    · rename_i heq
      cases heq
      rw [ih hcs]
      rfl
    · rename_i heq
      cases heq

theorem Text.Utf8.utf8EncodeChar_of_lt {c : Char} (hc : c.toNat < 0x80) :
    String.utf8EncodeChar c = [UInt8.ofNat c.toNat] := by
  have hle : c.val.toNat ≤ 127 := Nat.le_of_lt_succ hc
  rw [String.utf8EncodeChar]
  exact if_pos hle

/-- ASCII has a byte for each character. -/
theorem Text.Utf8.length_encode {cs : List Char} (h : ∀ c ∈ cs, c.toNat < 0x80) :
    (encode cs).length = cs.length := by
  induction cs with
  | nil => rfl
  | cons c cs ih =>
    rw [encode, List.flatMap_cons, ← encode, List.length_append, utf8EncodeChar_of_lt (h c List.mem_cons_self),
      ih fun d hd => h d (List.mem_cons_of_mem c hd), List.length_singleton, List.length_cons, Nat.add_comm]

/-- Bytes of ASCII are read as what they were written for. -/
theorem Text.Utf8.decodeLossy_encode {cs : List Char} (h : ∀ c ∈ cs, c.toNat < 0x80) :
    decodeLossy (encode cs) = cs := by
  induction cs with
  | nil => simp [decodeLossy, pieces]
  | cons c cs ih =>
    have hc : c.toNat < 0x80 := h c List.mem_cons_self
    have hbyte : String.utf8EncodeChar c = [UInt8.ofNat c.toNat] := utf8EncodeChar_of_lt hc
    have hnat : (UInt8.ofNat c.toNat).toNat = c.toNat := by
      rw [UInt8.toNat_ofNat']
      omega
    have hnext : next (UInt8.ofNat c.toNat) (encode cs) = (some c, encode cs) := by
      simp [next, lead?, hnat, hc, continuation]
    have ih := ih fun d hd => h d (List.mem_cons_of_mem c hd)
    rw [encode, List.flatMap_cons, hbyte, List.singleton_append, ← encode, decodeLossy, pieces, hnext]
    rw [decodeLossy] at ih
    simp [ih]

namespace Url

/-! ## Dotted addresses -/

theorem ipv4Number_decimal (byte : UInt8) : ipv4Number (Text.decimal byte.toNat) = some byte.toNat := by
  have all : ∀ n : Fin 256, ipv4Number (Text.decimal n) = some n.val := by decide +kernel
  exact all ⟨byte.toNat, byte.toNat_lt⟩

/-- **A version 4 address is read back from its text.** -/
theorem readIpv4_text (ip : Net.Ipv4) : readIpv4 ip.text = some ip := by
  have hlast : [Text.decimal ip.a.toNat, Text.decimal ip.b.toNat, Text.decimal ip.c.toNat,
      Text.decimal ip.d.toNat].getLast? ≠ some [] := by
    simp [Text.decimal, Nat.toDigits_ne_nil]
  have ha := ip.a.toNat_lt
  have hb := ip.b.toNat_lt
  have hc := ip.c.toNat_lt
  have hd := ip.d.toNat_lt
  have hvalue : ipv4OfParts [ip.a.toNat, ip.b.toNat, ip.c.toNat, ip.d.toNat] 4 0 =
      some (((ip.a.toNat * 256 + ip.b.toNat) * 256 + ip.c.toNat) * 256 + ip.d.toNat) := by
    simp [ipv4OfParts, ha, hb, hc, hd]
  have hbytes : Net.Ipv4.ofNat (((ip.a.toNat * 256 + ip.b.toNat) * 256 + ip.c.toNat) * 256 + ip.d.toNat) =
      ip := by
    cases ip
    simp only [Net.Ipv4.ofNat, Net.Ipv4.mk.injEq, ← UInt8.toNat_inj, UInt8.toNat_ofNat'] at *
    omega
  rw [readIpv4, ip.splitAll_text]
  simp only [if_neg hlast]
  simp [ipv4Number_decimal, hvalue, hbytes]

theorem endsInNumber_text (ip : Net.Ipv4) : endsInNumber ip.text = true := by
  have hne : Text.decimal ip.d.toNat ≠ [] := Nat.toDigits_ne_nil
  rw [endsInNumber, ip.splitAll_text]
  simp [ipv4Number_decimal, hne]

/-! ## What hosts hold -/

/-- A character that is neither skipped at the ends of a URL, nor ends an authority, nor divides one. -/
def IsAuthorityChar (c : Char) : Prop := 0x20 < c.toNat ∧ endsAuthority true c = false ∧ c ≠ '@'

instance (c : Char) : Decidable (IsAuthorityChar c) := inferInstanceAs (Decidable (_ ∧ _ ∧ _))

/-- A character of a name: it does not open brackets either, starts no port and marks no drive. -/
def IsNameChar (c : Char) : Prop := IsAuthorityChar c ∧ c ≠ '[' ∧ c ≠ ':' ∧ c ≠ '|'

instance (c : Char) : Decidable (IsNameChar c) := inferInstanceAs (Decidable (_ ∧ _ ∧ _))

/-- A host as it is read: where the scheme is special a domain that is ASCII and no address, elsewhere a name
without characters to escape. -/
inductive IsHost (toAscii : List Char → Option (List Char)) : Bool → Host → Prop
  | domain {d : List Char} : toAscii d = some d → d ≠ [] → endsInNumber d = false →
      IsHost toAscii true (.name d)
  | plain {cs : List Char} : cs ≠ [] →
      (∀ c ∈ cs, isForbiddenHostChar c = false ∧ isControlOrWide c = false) → IsHost toAscii false (.name cs)
  | ipv4 (ip : Net.Ipv4) : IsHost toAscii true (.ipv4 ip)
  | ipv6 (special : Bool) (ip : Net.Ipv6) : IsHost toAscii special (.ipv6 ip)

/-! ## Classes of characters -/

theorem isNameChar_of_allowed {c : Char} (hc : c.toNat < 0x80)
    (h : Idna.isForbiddenAscii c.toNat = false) : IsNameChar c := by
  revert h
  exact of_ascii hc (by decide +kernel)

theorem toNat_lt_of_isControlOrWide {c : Char} (h : isControlOrWide c = false) : c.toNat < 0x80 := by
  simp only [isControlOrWide, Bool.or_eq_false_iff, decide_eq_false_iff_not] at h
  omega

theorem isNameChar_of_plain {c : Char} (hforbidden : isForbiddenHostChar c = false)
    (hwide : isControlOrWide c = false) : IsNameChar c := by
  have hc := toNat_lt_of_isControlOrWide hwide
  revert hforbidden hwide
  exact of_ascii hc (by decide +kernel)

theorem toNat_lt_of_hexValue? {c : Char} (h : Text.hexValue? c ≠ none) : c.toNat < 0x80 := by
  simp only [Text.hexValue?, Char.le_def, UInt32.le_iff_toNat_le, Char.toNat_val] at h
  grind

theorem isNameChar_of_hexValue? {c : Char} (h : Text.hexValue? c ≠ none) : IsNameChar c ∧ c ≠ ']' := by
  have hc := toNat_lt_of_hexValue? h
  revert h
  exact of_ascii hc (by decide +kernel)

/-! ## Texts of hosts -/

theorem isNameChar_of_mem_text {ip : Net.Ipv4} {c : Char} (hc : c ∈ ip.text) : IsNameChar c := by
  rcases Net.Ipv4.mem_text_cases hc with rfl | hdigit
  · decide
  · exact (isNameChar_of_hexValue? (Text.hexValue?_ne_none_of_isDigit hdigit)).1

/-- A version 6 address stays within its brackets. -/
theorem of_mem_text {ip : Net.Ipv6} {c : Char} (hc : c ∈ ip.text) :
    IsAuthorityChar c ∧ c ≠ '[' ∧ c ≠ ']' := by
  by_cases hcolon : c = ':'
  · subst hcolon
    decide
  · have hname := isNameChar_of_hexValue? fun hnone => ip.notMem_text hnone hcolon hc
    exact ⟨hname.1.1, hname.1.2.1, hname.2⟩

variable {toAscii kept : List Char → Option (List Char)} {special : Bool} {host : Host}

/-- Names are made of characters of names. -/
theorem IsHost.name_chars (canonical : Idna.IsCanonical toAscii) {name : List Char}
    (h : IsHost toAscii special (.name name)) : ∀ c ∈ name, IsNameChar c := by
  intro c hc
  cases h with
  | domain hascii =>
    obtain ⟨hlow, hallowed⟩ := canonical.allowed hascii c hc
    exact isNameChar_of_allowed hlow hallowed
  | plain _ hchars =>
    obtain ⟨hforbidden, hwide⟩ := hchars c hc
    exact isNameChar_of_plain hforbidden hwide

/-- **Nothing in the text of a host ends or divides an authority.** -/
theorem IsHost.text_chars (canonical : Idna.IsCanonical toAscii) (h : IsHost toAscii special host) :
    ∀ c ∈ host.text, IsAuthorityChar c := by
  intro c hc
  cases host with
  | name name => exact (h.name_chars canonical c hc).1
  | ipv4 ip => exact (isNameChar_of_mem_text hc).1
  | ipv6 ip =>
    simp only [Host.text, List.cons_append, List.mem_cons, List.mem_append, List.not_mem_nil,
      or_false] at hc
    rcases hc with rfl | hc | rfl
    · decide
    · exact (of_mem_text hc).1
    · decide

theorem IsHost.text_ne_nil (h : IsHost toAscii special host) : host.text ≠ [] := by
  cases h with
  | domain _ hne _ => exact hne
  | plain hne _ => exact hne
  | ipv4 ip => exact List.ne_nil_of_mem ip.dot_mem_text
  | ipv6 special ip => exact List.cons_ne_nil _ _

/-! ## Hosts that were read -/

theorem eq_of_readBracketed {cs : List Char} (h : readBracketed cs = .ok host) :
    ∃ ip, host = .ipv6 ip := by
  rw [readBracketed] at h
  split at h
  · split at h
    · cases h
      exact ⟨_, rfl⟩
    · cases h
  · cases h

/-- Escapes hold nothing that is escaped, and nothing that is forbidden. -/
theorem plain_escape (byte : UInt8) :
    ∀ c ∈ Text.Percent.escape byte, isForbiddenHostChar c = false ∧ isControlOrWide c = false := by
  have all : ∀ n : Fin 16, isForbiddenHostChar (Text.upperHexDigit n) = false ∧
      isControlOrWide (Text.upperHexDigit n) = false := by decide +kernel
  have hlow : byte.toNat % 16 < 16 := Nat.mod_lt _ (by decide)
  have hhigh : byte.toNat / 16 < 16 := by
    have hbyte := byte.toNat_lt
    omega
  intro c hc
  simp only [Text.Percent.escape, List.mem_cons, List.not_mem_nil, or_false] at hc
  rcases hc with rfl | rfl | rfl
  · decide
  · exact all ⟨_, hhigh⟩
  · exact all ⟨_, hlow⟩

theorem plain_encode {cs : List Char} (h : ∀ c ∈ cs, isForbiddenHostChar c = false) :
    ∀ c ∈ Text.Percent.encode isControlOrWide cs,
      isForbiddenHostChar c = false ∧ isControlOrWide c = false := by
  intro c hc
  obtain ⟨d, hd, hcd⟩ := List.mem_flatMap.1 hc
  split at hcd
  · obtain ⟨byte, _, hbyte⟩ := List.mem_flatMap.1 hcd
    exact plain_escape byte c hbyte
  · rename_i hplain
    rw [List.mem_singleton.1 hcd]
    exact ⟨h d hd, Bool.eq_false_iff.2 hplain⟩

theorem encode_ne_nil {escaped : Char → Bool} {cs : List Char} (h : cs ≠ []) :
    Text.Percent.encode escaped cs ≠ [] := by
  obtain ⟨c, cs, rfl⟩ := List.exists_cons_of_ne_nil h
  have hbytes : 0 < (String.utf8EncodeChar c).length := by
    rw [String.length_utf8EncodeChar]
    exact c.utf8Size_pos
  obtain ⟨byte, bytes, hcons⟩ := List.exists_cons_of_length_pos hbytes
  rw [Text.Percent.encode, List.flatMap_cons]
  split
  · rw [hcons]
    exact List.cons_ne_nil _ _
  · exact List.cons_ne_nil _ _

theorem isHost_of_readHost (settles : Idna.Settles toAscii kept) {cs : List Char}
    (h : readHost toAscii cs = .ok host) : IsHost kept true host := by
  rw [readHost] at h
  split at h
  · obtain ⟨ip, rfl⟩ := eq_of_readBracketed h
    exact .ipv6 true ip
  · split at h
    · cases h
    · rename_i d hd
      split at h
      · cases h
      · rename_i hne
        split at h
        · -- what ends in a number is an address or nothing
          split at h
          · cases h
            exact .ipv4 _
          · cases h
        · -- any other domain is left as it is
          rename_i hnumber
          cases h
          refine .domain (settles _ _ hd) ?_ (Bool.eq_false_iff.2 hnumber)
          rintro rfl
          exact hne rfl

theorem isHost_of_readPlainHost {cs : List Char} (hne : cs ≠ [])
    (h : readPlainHost cs = .ok host) : IsHost kept false host := by
  rw [readPlainHost] at h
  split at h
  · obtain ⟨ip, rfl⟩ := eq_of_readBracketed h
    exact .ipv6 false ip
  · split at h
    · cases h
    · rename_i hallowed
      cases h
      refine .plain (encode_ne_nil hne) (plain_encode fun c hc => ?_)
      rw [← Bool.not_eq_true]
      exact fun hforbidden => hallowed (List.any_eq_true.2 ⟨c, hc, hforbidden⟩)

theorem isHost_of_hostOf (settles : Idna.Settles toAscii kept) {cs : List Char}
    (h : hostOf toAscii special cs = .ok (some host)) : IsHost kept special host := by
  rw [hostOf] at h
  split at h
  · split at h <;> cases h
  · rename_i hne
    split at h
    · rename_i hspecial
      obtain ⟨read, hread, hsome⟩ := exists_of_map_eq_ok h
      cases hsome
      rw [hspecial]
      exact isHost_of_readHost settles hread
    · rename_i hspecial
      obtain ⟨read, hread, hsome⟩ := exists_of_map_eq_ok h
      cases hsome
      rw [Bool.eq_false_iff.2 hspecial]
      refine isHost_of_readPlainHost ?_ hread
      rintro rfl
      exact hne rfl

/-! ## Reading hosts back -/

theorem readBracketed_text (ip : Net.Ipv6) : readBracketed (Host.ipv6 ip).text = .ok (.ipv6 ip) := by
  have hlast : ('[' :: ip.text ++ [']']).getLast? = some ']' := by
    rw [List.cons_append, List.getLast?_cons, List.getLast?_append]
    rfl
  have hinner : (('[' :: ip.text ++ [']']).drop 1).dropLast = ip.text := by
    rw [List.cons_append, List.drop_one, List.tail_cons, List.dropLast_concat]
  rw [readBracketed, Host.text, if_pos ⟨hlast, by simp⟩, hinner, ip.ofText?_text]

/-- A domain that is left as it is is read as a name, or as the address that it spells. -/
theorem readHost_of_toAscii (canonical : Idna.IsCanonical toAscii) {d : List Char}
    (h : toAscii d = some d) (hfull : d ≠ []) (hname : ∀ c ∈ d, IsNameChar c) :
    (endsInNumber d = false → readHost toAscii d = .ok (.name d)) ∧
      ∀ ip, endsInNumber d = true → readIpv4 d = some ip → readHost toAscii d = .ok (.ipv4 ip) := by
  have hbracket : d.head? ≠ some '[' := fun hhead => (hname _ (List.mem_of_head? hhead)).2.1 rfl
  have hescape : '%' ∉ d := fun hmem => absurd (canonical.allowed h _ hmem).2 (by decide)
  have hread : Text.Utf8.decodeLossy (Text.Percent.decode d) = d := by
    rw [Text.Percent.decode_of_notMem hescape]
    exact Text.Utf8.decodeLossy_encode fun c hc => (canonical.allowed h c hc).1
  refine ⟨fun hnumber => ?_, fun ip hnumber hip => ?_⟩
  · simp [readHost, hbracket, hread, h, hfull, hnumber]
  · simp [readHost, hbracket, hread, h, hfull, hnumber, hip]

theorem IsHost.readHost_text (canonical : Idna.IsCanonical toAscii) (h : IsHost toAscii true host) :
    readHost toAscii host.text = .ok host := by
  cases h with
  | domain hascii hfull hnumber =>
    have hname := (IsHost.domain hascii hfull hnumber).name_chars canonical
    exact (readHost_of_toAscii canonical hascii hfull hname).1 hnumber
  | ipv4 ip =>
    have hfull : ip.text ≠ [] := List.ne_nil_of_mem ip.dot_mem_text
    have hread := readHost_of_toAscii canonical (canonical.dotted ip) hfull fun c => isNameChar_of_mem_text
    exact hread.2 ip (endsInNumber_text ip) (readIpv4_text ip)
  | ipv6 _ ip => exact (if_pos rfl).trans (readBracketed_text ip)

theorem IsHost.readPlainHost_text (canonical : Idna.IsCanonical toAscii) (h : IsHost toAscii false host) :
    readPlainHost host.text = .ok host := by
  cases h with
  | @plain cs hfull hchars =>
    have hname := (IsHost.plain hfull hchars).name_chars canonical
    -- no bracket opens it, nothing in it is forbidden and nothing is left to escape
    have hbracket : cs.head? ≠ some '[' := fun hhead => (hname _ (List.mem_of_head? hhead)).2.1 rfl
    have hallowed : ¬ cs.any isForbiddenHostChar = true := by
      rw [Bool.not_eq_true, List.any_eq_false]
      exact fun c hc => Bool.eq_false_iff.1 (hchars c hc).1
    rw [Host.text, readPlainHost, if_neg hbracket, if_neg hallowed,
      Text.Percent.encode_of_none fun c hc => (hchars c hc).2]
  | ipv6 _ ip => exact (if_pos rfl).trans (readBracketed_text ip)

/-- **The text of a host is read as that host.** -/
theorem IsHost.hostOf_text (canonical : Idna.IsCanonical toAscii) (h : IsHost toAscii special host) :
    hostOf toAscii special host.text = .ok (some host) := by
  have hne : ¬ host.text.isEmpty = true := by simpa using h.text_ne_nil
  rw [hostOf, if_neg hne]
  cases special with
  | true =>
    rw [if_pos rfl, h.readHost_text canonical]
    rfl
  | false =>
    rw [if_neg Bool.false_ne_true, h.readPlainHost_text canonical]
    rfl

end Url

end Switchyard
