/-
Authorities are read back from their text.

Host and port are read back in front of whatever ends an authority (`readAuthority_text`), and so is the host
of a file (`readFile_text`).
-/
import Switchyard.Proofs.Url.Host

namespace Switchyard.Url

variable {toAscii : List Char → Option (List Char)} {special : Bool} {host : Host} {port : Option UInt16}
  {kind : SchemeKind} {scheme cs rest : List Char}

/-! ## Where an authority ends -/

/-- What may follow an authority: nothing, or something that starts with a character that ends it. -/
def StartsTail (special : Bool) (cs : List Char) : Prop :=
  ∀ c, cs.head? = some c → endsAuthority special c = true

theorem endsAuthority_mono {c : Char} (h : endsAuthority special c = true) : endsAuthority true c = true := by
  cases special with
  | true => exact h
  | false =>
    rw [endsAuthority, Bool.false_and, Bool.or_false] at h
    rw [endsAuthority, h, Bool.true_or]

theorem IsAuthorityChar.endsAuthority_eq {c : Char} (h : IsAuthorityChar c) (special : Bool) :
    endsAuthority special c = false :=
  Bool.eq_false_iff.2 fun hends => Bool.eq_false_iff.1 h.2.1 (endsAuthority_mono hends)

theorem StartsTail.mono (h : StartsTail special cs) : StartsTail true cs :=
  fun c hc => endsAuthority_mono (h c hc)

/-- What a text holds before it ends an authority. -/
def authorityPart (special : Bool) (cs : List Char) : List Char :=
  cs.takeWhile fun c => !endsAuthority special c

theorem StartsTail.authorityPart_eq (h : StartsTail special cs) : authorityPart special cs = [] := by
  cases cs with
  | nil => rfl
  | cons c cs => simp [authorityPart, h c rfl]

theorem authorityPart_append (hchars : ∀ c ∈ cs, IsAuthorityChar c) (special : Bool) (rest : List Char) :
    authorityPart special (cs ++ rest) = cs ++ authorityPart special rest := by
  rw [authorityPart, List.takeWhile_append_of_pos fun c hc => ?_, authorityPart]
  rw [(hchars c hc).endsAuthority_eq special, Bool.not_false]

/-! ## Users -/

theorem splitLastAt_eq_none_iff : splitLastAt cs = none ↔ '@' ∉ cs := by
  rw [splitLastAt, Option.map_eq_none_iff, Text.splitOnce_eq_none_iff, List.mem_reverse]

/-- Without `@` there is no user. -/
theorem readUser_of_notMem (hchars : ∀ c ∈ cs, IsAuthorityChar c)
    (hrest : '@' ∉ authorityPart special rest) : readUser special (cs ++ rest) = .ok ([], cs ++ rest) := by
  have hnone : splitLastAt (authorityPart special (cs ++ rest)) = none := by
    rw [splitLastAt_eq_none_iff, authorityPart_append hchars, List.mem_append, not_or]
    exact ⟨fun hat => (hchars _ hat).2.2 rfl, hrest⟩
  rw [authorityPart] at hnone
  simp only [readUser, hnone]

/-- The last `@` stays the last behind another text. -/
theorem splitLastAt_append {user host : List Char} (h : splitLastAt rest = some (user, host))
    (cs : List Char) : splitLastAt (cs ++ rest) = some (cs ++ user, host) := by
  rw [splitLastAt, Option.map_eq_some_iff] at h
  obtain ⟨⟨after, before⟩, hsplit, hpair⟩ := h
  obtain ⟨hreverse, hat⟩ := Text.eq_append_of_splitOnce hsplit
  cases hpair
  rw [splitLastAt, List.reverse_append, hreverse, List.append_assoc, List.cons_append,
    Text.splitOnce_append _ hat]
  simp

/-- **With `@` in what follows, all of an authority is taken for a user**, and what is read instead depends
on what follows alone. -/
theorem exists_readUser_of_mem (hrest : '@' ∈ authorityPart special rest) :
    ∃ after, ∀ cs, cs ≠ [] → (∀ c ∈ cs, IsAuthorityChar c) →
      ∃ user, readUser special (cs ++ rest) = .ok (user, after) := by
  cases hsplit : splitLastAt (authorityPart special rest) with
  | none => exact absurd hrest (splitLastAt_eq_none_iff.1 hsplit)
  | some pair =>
    obtain ⟨user, host⟩ := pair
    refine ⟨host ++ rest.drop (authorityPart special rest).length, fun cs hne hchars => ?_⟩
    have hpart := authorityPart_append hchars special rest
    have hlast := splitLastAt_append hsplit cs
    rw [← hpart] at hlast
    -- what stands behind the last `@` and what stands behind the authority are the same for all `cs`
    have hdrop : (cs ++ rest).drop (authorityPart special (cs ++ rest)).length =
        rest.drop (authorityPart special rest).length := by
      rw [hpart, List.length_append, List.drop_append]
      simp
    rw [authorityPart] at hlast hdrop
    refine ⟨userText (cs ++ user), ?_⟩
    simp only [readUser, hlast, hdrop]
    simp [hne]

/-! ## Hosts -/

/-- A host ends before its port, and where the authority does. -/
def EndsHost (special : Bool) (rest : List Char) : Prop :=
  ∀ c, rest.head? = some c → c = ':' ∨ endsAuthority special c = true

theorem StartsTail.endsHost (h : StartsTail special rest) : EndsHost special rest :=
  fun c hc => .inr (h c hc)

theorem spanHost_of_endsHost (h : EndsHost special rest) : spanHost special rest false = ([], rest) := by
  cases rest with
  | nil => rfl
  | cons c rest =>
    have hends : (c = ':' ∧ !false) ∨ endsAuthority special c = true :=
      (h c rfl).imp_left fun hcolon => ⟨hcolon, rfl⟩
    rw [spanHost, if_pos hends]

theorem spanHost_name (hchars : ∀ c ∈ cs, IsNameChar c) (hrest : EndsHost special rest) :
    spanHost special (cs ++ rest) false = (cs, rest) := by
  induction cs with
  | nil => exact spanHost_of_endsHost hrest
  | cons c cs ih =>
    obtain ⟨hauthority, hopen, hcolon, _⟩ := hchars c List.mem_cons_self
    have hends := hauthority.endsAuthority_eq special
    rw [List.cons_append, spanHost, if_neg (by simp [hcolon, hends]), if_neg hopen, ite_self,
      ih fun d hd => hchars d (List.mem_cons_of_mem c hd)]

/-- Up to the closing bracket, a colon starts no port. -/
theorem spanHost_bracketed (hchars : ∀ c ∈ cs, IsAuthorityChar c ∧ c ≠ '[' ∧ c ≠ ']')
    (hrest : EndsHost special rest) :
    spanHost special (cs ++ ']' :: rest) true = (cs ++ [']'], rest) := by
  induction cs with
  | nil =>
    have hclose : endsAuthority special ']' = false :=
      (by decide : IsAuthorityChar ']').endsAuthority_eq special
    simp [spanHost, hclose, spanHost_of_endsHost hrest]
  | cons c cs ih =>
    obtain ⟨hauthority, hopen, hclose⟩ := hchars c List.mem_cons_self
    have hends := hauthority.endsAuthority_eq special
    rw [List.cons_append, spanHost, if_neg (by simp [hends]), if_neg hopen, if_neg hclose,
      ih fun d hd => hchars d (List.mem_cons_of_mem c hd)]
    rfl

theorem IsHost.spanHost_text (canonical : Idna.IsCanonical toAscii) (h : IsHost toAscii special host)
    (hrest : EndsHost special rest) : spanHost special (host.text ++ rest) false = (host.text, rest) := by
  cases host with
  | name name => exact spanHost_name (h.name_chars canonical) hrest
  | ipv4 ip => exact spanHost_name (fun c => isNameChar_of_mem_text) hrest
  | ipv6 ip =>
    have hopen : endsAuthority special '[' = false :=
      (by decide : IsAuthorityChar '[').endsAuthority_eq special
    have hinner : spanHost special (ip.text ++ ']' :: rest) true = (ip.text ++ [']'], rest) :=
      spanHost_bracketed (fun c => of_mem_text) hrest
    rw [Host.text, List.cons_append, List.cons_append, spanHost, if_neg (by simp [hopen]), if_pos rfl,
      List.append_assoc, List.singleton_append, hinner]

/-! ## Ports -/

/-- The text of a port with its colon. -/
def portText : Option UInt16 → List Char
  | some port => ':' :: Text.decimal port.toNat
  | none => []

theorem portText_injective {port port' : Option UInt16} (h : portText port = portText port') :
    port = port' := by
  cases port with
  | none =>
    cases port' with
    | none => rfl
    | some port' => cases h
  | some port =>
    cases port' with
    | none => cases h
    | some port' => rw [UInt16.toNat_inj.1 (Text.decimal_injective (List.cons.inj h).2)]

theorem le_of_readDigits {acc value : Nat} {digits : List Char}
    (h : Text.readDigits 10 acc digits = some value) : acc ≤ value := by
  induction digits generalizing acc with
  | nil => exact Nat.le_of_eq (Option.some.inj h)
  | cons c digits ih =>
    rw [Text.readDigits, Option.bind_eq_some_iff] at h
    obtain ⟨d, _, hdigits⟩ := h
    have := ih hdigits
    omega

/-- Digits in front are those of the port. -/
theorem readPortDigits_append {default : Option UInt16} {acc value : Nat} {seen : Bool} {digits : List Char}
    (h : Text.readDigits 10 acc digits = some value) (hvalue : value ≤ 65535) :
    readPortDigits default (digits ++ rest) acc seen =
      readPortDigits default rest value (seen || !digits.isEmpty) := by
  induction digits generalizing acc seen with
  | nil =>
    rw [Option.some.inj h]
    simp
  | cons c digits ih =>
    rw [Text.readDigits, Option.bind_eq_some_iff] at h
    obtain ⟨d, hd, hdigits⟩ := h
    obtain ⟨hdigit, hd⟩ := Text.digitValue?_ten_eq_some_iff.1 hd
    have hzero : c.toNat - 48 = d := hd
    have hle := le_of_readDigits hdigits
    rw [List.cons_append, readPortDigits, if_pos hdigit]
    simp only [hzero]
    rw [if_neg (by omega), ih hdigits]
    simp

/-- What is read of digits is no port, or one that is not the default and only grows with more digits. -/
theorem of_readPortDigits {default : Option UInt16} {value : Nat} {seen : Bool} (hvalue : value ≤ 65535)
    (h : readPortDigits default cs value seen = .ok (port, rest)) :
    port = none ∨ ∃ p, port = some p ∧ port ≠ default ∧ value ≤ p.toNat := by
  -- where the digits end, `seen` and the default decide
  have hfinal {seen : Bool} {value : Nat} (hvalue : value ≤ 65535)
      (h : (if seen ∧ some (UInt16.ofNat value) ≠ default then some (UInt16.ofNat value) else none) =
        port) : port = none ∨ ∃ p, port = some p ∧ port ≠ default ∧ value ≤ p.toNat := by
    split at h
    · rename_i hseen
      refine .inr ⟨UInt16.ofNat value, h.symm, h ▸ hseen.2, ?_⟩
      rw [UInt16.toNat_ofNat']
      omega
    · exact .inl h.symm
  induction cs generalizing value seen with
  | nil =>
    simp only [readPortDigits, Except.ok.injEq, Prod.mk.injEq] at h
    exact hfinal hvalue h.1
  | cons c cs ih =>
    simp only [readPortDigits] at h
    split at h
    · -- one more digit
      split at h
      · cases h
      · rename_i hsmall
        refine (ih (Nat.not_lt.1 hsmall) h).imp_right ?_
        rintro ⟨p, hp, hne, hle⟩
        exact ⟨p, hp, hne, by omega⟩
    · split at h
      · simp only [Except.ok.injEq, Prod.mk.injEq] at h
        exact hfinal hvalue h.1
      · cases h

theorem readPortDigits_of_startsTail {default : Option UInt16} {value : Nat} (h : StartsTail true rest)
    (hdefault : some (UInt16.ofNat value) ≠ default) :
    readPortDigits default rest value true = .ok (some (UInt16.ofNat value), rest) := by
  cases rest with
  | nil => simp [readPortDigits, hdefault]
  | cons c rest =>
    -- the character that ends an authority is not one more digit
    have hends : endsAuthority true c = true := h c rfl
    have hdigit : c.isDigit = false := by
      rw [← Bool.not_eq_true]
      intro hdigit
      have hname : c = '/' ∨ c = '?' ∨ c = '#' ∨ c = '\\' := by
        simpa [endsAuthority, or_assoc] using hends
      rcases hname with rfl | rfl | rfl | rfl <;> exact absurd hdigit (by decide)
    rw [readPortDigits, if_neg (Bool.eq_false_iff.1 hdigit), if_pos hends]
    simp [hdefault]

/-- **The text of a port is read as that port**, unless it is the default of its scheme. -/
theorem readPort_text (hport : ∀ default, kind = .web default → port ≠ some default)
    (hrest : StartsTail true rest) : readPort kind (portText port ++ rest) = .ok (port, rest) := by
  cases port with
  | none =>
    cases rest with
    | nil => rfl
    | cons c rest =>
      have hcolon : c ≠ ':' := by
        rintro rfl
        exact absurd (hrest ':' rfl) (by decide)
      rw [portText, List.nil_append, readPort.eq_def]
      split
      · rename_i heq
        exact absurd (List.cons.inj heq).1 hcolon
      · rfl
  | some port =>
    have hread : Text.readDigits 10 0 (Text.decimal port.toNat) = some port.toNat :=
      Text.readDigits_toDigits (by decide) (by decide) _
    have hbound : port.toNat ≤ 65535 := Nat.le_of_lt_succ port.toNat_lt
    have hseen : (Text.decimal port.toNat).isEmpty = false := by simp [Text.decimal]
    have hdigits {default : Option UInt16} (hdefault : some port ≠ default) :
        readPortDigits default (Text.decimal port.toNat ++ rest) 0 false = .ok (some port, rest) := by
      have hport : some (UInt16.ofNat port.toNat) ≠ default := by rwa [UInt16.ofNat_toNat]
      rw [readPortDigits_append hread hbound, hseen]
      exact (readPortDigits_of_startsTail hrest hport).trans (by rw [UInt16.ofNat_toNat])
    cases kind with
    | web default => exact hdigits (hport default rfl)
    | file => exact hdigits (Option.some_ne_none _)
    | other => exact hdigits (Option.some_ne_none _)

/-! ## Authorities -/

theorem portText_chars : ∀ c ∈ portText port, IsAuthorityChar c := by
  intro c hc
  cases port with
  | none => cases hc
  | some port =>
    rcases List.mem_cons.1 hc with rfl | hdigit
    · decide
    · exact (isNameChar_of_hexValue? fun hnone => Text.notMem_decimal hnone _ hdigit).1.1

theorem IsHost.authority_chars (canonical : Idna.IsCanonical toAscii) (h : IsHost toAscii special host)
    (port : Option UInt16) : ∀ c ∈ host.text ++ portText port, IsAuthorityChar c := by
  intro c hc
  exact (List.mem_append.1 hc).elim (h.text_chars canonical c) (portText_chars c)

theorem endsHost_portText (hrest : StartsTail special rest) : EndsHost special (portText port ++ rest) := by
  cases port with
  | none => exact hrest.endsHost
  | some port =>
    intro c hc
    cases hc
    exact .inl rfl

/-- A URL without a user, with the tail that follows its host. -/
def siteUrl (scheme : List Char) (host : Host) (port : Option UInt16) (tail : Tail) : Url :=
  { scheme, user := [], host := some host, port, slashes := true, path := tail.path, query := tail.query,
    fragment := tail.fragment }

/-- **Host and port are read back in front of a tail.** -/
theorem readAuthority_text (canonical : Idna.IsCanonical toAscii) (hhost : IsHost toAscii kind.special host)
    (hport : ∀ default, kind = .web default → port ≠ some default) (hrest : StartsTail kind.special rest) :
    readAuthority toAscii scheme kind (host.text ++ portText port ++ rest) =
      .ok (siteUrl scheme host port (readTail kind rest)) := by
  have hends : EndsHost kind.special (portText port ++ rest) := endsHost_portText hrest
  have hat : '@' ∉ authorityPart kind.special rest := by simp [hrest.authorityPart_eq]
  have huser := readUser_of_notMem (hhost.authority_chars canonical port) hat
  simp only [readAuthority, huser, bind, Except.bind]
  rw [List.append_assoc, hhost.spanHost_text canonical hends]
  simp only [hhost.hostOf_text canonical, readPort_text hport hrest.mono]
  rfl

/-! ## Files -/

theorem IsHost.isDriveLetter_text (canonical : Idna.IsCanonical toAscii) (h : IsHost toAscii special host) :
    isDriveLetter host.text = false := by
  have hname {cs : List Char} (hchars : ∀ c ∈ cs, IsNameChar c) : isDriveLetter cs = false := by
    rw [isDriveLetter.eq_def]
    split
    · obtain ⟨-, -, hcolon, hbar⟩ := hchars _ (List.mem_cons_of_mem _ List.mem_cons_self)
      simp [hcolon, hbar]
    · rfl
  cases host with
  | name name => exact hname (h.name_chars canonical)
  | ipv4 ip => exact hname fun c => isNameChar_of_mem_text
  | ipv6 ip =>
    rw [Host.text, List.cons_append, isDriveLetter.eq_def]
    split
    · rename_i heq
      rw [← (List.cons.inj heq).1]
      rfl
    · rfl

/-- The host of a file is read back in front of a tail; `fileUrl` drops it where the tail starts with a drive
letter. -/
theorem readFile_text (canonical : Idna.IsCanonical toAscii) (hhost : IsHost toAscii true host)
    (hlocal : host ≠ .name "localhost".toList) (hrest : StartsTail true rest) :
    readFile toAscii ('/' :: '/' :: (host.text ++ rest)) =
      .ok (fileUrl (some host) (readTail .file rest)) := by
  have hends : (fun c => !(c == '/' || c == '\\' || c == '?' || c == '#')) =
      fun c => !endsAuthority true c := by
    funext c
    rw [endsAuthority, Bool.true_and]
    ac_rfl
  have hpart : (host.text ++ rest).takeWhile (fun c => !(c == '/' || c == '\\' || c == '?' || c == '#')) =
      host.text := by
    have happend := authorityPart_append (hhost.text_chars canonical) true rest
    rw [hrest.authorityPart_eq, List.append_nil] at happend
    rw [hends]
    exact happend
  have hne : host.text.isEmpty = false := by simpa using hhost.text_ne_nil
  simp only [readFile, hpart, hhost.isDriveLetter_text canonical, hne, hhost.readHost_text canonical, bind,
    Except.bind, pure, Except.pure, if_neg hlocal, List.drop_left]
  rfl

end Switchyard.Url
