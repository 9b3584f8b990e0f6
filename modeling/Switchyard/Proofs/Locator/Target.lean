/-
Which backend a probe asks.

The URL that is asked is the text of a backend with the path of the probe right behind it.  A path that does
not start where an authority ends goes on with the authority of the backend instead.
`Probe.asks_itself` says which paths leave every backend as it is.
-/
import Switchyard.Proofs.Url.Site
import Switchyard.Setup

namespace Switchyard

variable {toAscii : List Char → Option (List Char)}

namespace Url

variable {rest tail : List Char} {port : Option UInt16}

/-! ## Paths that go on with an authority -/

/-- What goes on with port 1 is another port, or none. -/
theorem readPort_one_ne (hrest : ¬ StartsTail true rest)
    (h : readPort (.web 80) (portText (some 1) ++ rest) = .ok (port, tail)) : port ≠ some 1 := by
  rintro rfl
  have hread : readPortDigits (some 80) rest 1 true = .ok (some 1, tail) := h
  obtain ⟨c, hc, hends⟩ : ∃ c, rest.head? = some c ∧ endsAuthority true c ≠ true := by
    simpa [StartsTail] using hrest
  cases rest with
  | nil => cases hc
  | cons d rest =>
    cases hc
    simp only [readPortDigits, if_neg hends] at hread
    split at hread
    · split at hread
      · cases hread
      · rename_i hsmall
        -- with one more digit the number is at least ten
        rcases of_readPortDigits (Nat.not_lt.1 hsmall) hread with hnone | ⟨p, hp, -, hle⟩
        · cases hnone
        · cases hp
          have hone : (1 : UInt16).toNat = 1 := rfl
          omega
    · cases hread

/-- A version 6 address on port 1 of the web. -/
theorem isSite_one (toAscii : List Char → Option (List Char)) (ip : Net.Ipv6) :
    IsSite toAscii "http".toList (.ipv6 ip) (some 1) where
  isScheme := by
    have hall : "http".toList.all (fun c => decide (IsSchemeChar c ∧ c.toLower = c)) = true := by decide
    exact ⟨⟨'h', rfl, rfl⟩, fun c hc => of_decide_eq_true (List.all_eq_true.1 hall c hc)⟩
  isHost := .ipv6 true ip
  ne_default := by
    intro default hweb
    cases hweb
    decide
  of_file hfile := by cases hfile

/-- **What goes on with the authority of two addresses is read of neither or of only one.**  If it makes
users of the addresses, host and port are the same for both; else it changes the port of the first. -/
theorem parseWith_one_cases (canonical : Idna.IsCanonical toAscii) {path : List Char}
    (hpath : ¬ StartsTail true (cleanedEnd path)) {ip ip' : Net.Ipv6} {u u' : Url}
    (h : parseWith toAscii (siteText "http".toList (.ipv6 ip) (some 1) ++ path) = .ok u)
    (h' : parseWith toAscii (siteText "http".toList (.ipv6 ip') (some 1) ++ path) = .ok u') :
    (u'.host = u.host ∧ u'.port = u.port) ∨ (u.host = some (.ipv6 ip) ∧ u.port ≠ some 1) := by
  have hkind : SchemeKind.of "http".toList = .web 80 := rfl
  rw [(isSite_one toAscii ip).parseWith_web canonical hkind] at h
  rw [(isSite_one toAscii ip').parseWith_web canonical hkind] at h'
  have hchars (ip : Net.Ipv6) : ∀ c ∈ (Host.ipv6 ip).text ++ portText (some 1), IsAuthorityChar c :=
    (isSite_one toAscii ip).isHost.authority_chars canonical (some 1)
  obtain ⟨user, after, tail, huser, -, hreadHost, hreadPort⟩ := of_readAuthority h
  obtain ⟨user', after', tail', huser', -, hreadHost', hreadPort'⟩ := of_readAuthority h'
  by_cases hat : '@' ∈ authorityPart true (cleanedEnd path)
  · -- what is read after the user is the same for both
    left
    obtain ⟨common, hcommon⟩ := exists_readUser_of_mem hat
    obtain ⟨_, hfirst⟩ := hcommon _ (by simp [Host.text]) (hchars ip)
    obtain ⟨_, hsecond⟩ := hcommon _ (by simp [Host.text]) (hchars ip')
    cases huser.symm.trans hfirst
    cases huser'.symm.trans hsecond
    exact ⟨Except.ok.inj (hreadHost'.symm.trans hreadHost),
      (Prod.mk.inj (Except.ok.inj (hreadPort'.symm.trans hreadPort))).1⟩
  · -- the host is read back, and another port behind it
    right
    cases huser.symm.trans (readUser_of_notMem (hchars ip) hat)
    have hends : EndsHost true (portText (some 1) ++ cleanedEnd path) := by
      intro c hc
      cases hc
      exact .inl rfl
    have hisHost : IsHost toAscii true (.ipv6 ip) := .ipv6 true ip
    have hspan : spanHost (SchemeKind.web 80).special
        ((Host.ipv6 ip).text ++ portText (some 1) ++ cleanedEnd path) false =
          ((Host.ipv6 ip).text, portText (some 1) ++ cleanedEnd path) := by
      rw [List.append_assoc]
      exact hisHost.spanHost_text canonical hends
    rw [hspan] at hreadHost hreadPort
    exact ⟨Except.ok.inj (hreadHost.symm.trans (hisHost.hostOf_text canonical)),
      readPort_one_ne hpath hreadPort⟩

end Url

/-! ## Targets that are asked -/

namespace Probe

/-- The URL that is asked for the health of a target names that target. -/
def AsksItself (toAscii : List Char → Option (List Char)) (p : Probe) (target : Endpoint) : Prop :=
  ∃ e, Endpoint.parseWith toAscii (p.urlOf target) = .ok e ∧ e.identity = target.identity

/-- A path that starts where the authority of a scheme ends, and puts no drive letter in place of a host. -/
structure LeavesAuthority (kind : Url.SchemeKind) (path : String) : Prop where
  startsTail : Url.StartsTail kind.special (Url.cleanedEnd path.toList)
  drive : kind = .file → (Url.readTail .file (Url.cleanedEnd path.toList)).drive = false

theorem AsksItself.exists_url {p : Probe} {scheme : List Char} {host : Url.Host} {port : Option UInt16}
    (h : p.AsksItself toAscii (.ofSite scheme host port)) :
    ∃ u read, Url.parseWith toAscii (Url.siteText scheme host port ++ p.path.toList) = .ok u ∧
      u.host = some read ∧ read.text ++ Url.portText u.port = host.text ++ Url.portText port := by
  obtain ⟨e, hread, hsame⟩ := h
  obtain ⟨u, read, hparse, hhost, rfl⟩ := Endpoint.parseWith_eq_ok_iff.1 hread
  rw [urlOf, String.toList_append, Endpoint.toList_backend_ofSite] at hparse
  have hauthority : String.ofList (read.text ++ Url.portText u.port) =
      String.ofList (host.text ++ Url.portText port) := congrArg Prod.snd hsame
  exact ⟨u, read, hparse, hhost, String.ofList_injective hauthority⟩

/-- A path that lets two backends of the web be asked for themselves starts where an authority ends. -/
theorem startsTail_of_asksItself (canonical : Idna.IsCanonical toAscii) {p : Probe} {ip ip' : Net.Ipv6}
    (hne : ip ≠ ip') (h : p.AsksItself toAscii (.ofSite "http".toList (.ipv6 ip) (some 1)))
    (h' : p.AsksItself toAscii (.ofSite "http".toList (.ipv6 ip') (some 1))) :
    Url.StartsTail true (Url.cleanedEnd p.path.toList) := by
  by_contra hpath
  obtain ⟨u, read, hparse, hhost, hauthority⟩ := h.exists_url
  obtain ⟨u', read', hparse', hhost', hauthority'⟩ := h'.exists_url
  rcases Url.parseWith_one_cases canonical hpath hparse hparse' with ⟨hsame, hport⟩ | ⟨hsame, hport⟩
  · -- both would be one backend
    rw [hhost, hhost', Option.some.injEq] at hsame
    rw [hsame, hport, hauthority] at hauthority'
    have htext := List.append_cancel_right hauthority'
    simp only [Url.Host.text, List.cons_append, List.cons.injEq, true_and, List.append_cancel_right_eq]
      at htext
    exact hne (Net.Ipv6.text_injective htext)
  · -- the first would have two ports
    rw [hhost, Option.some.injEq] at hsame
    rw [hsame] at hauthority
    exact hport (Url.portText_injective (List.append_cancel_left hauthority))

/-- **A probe asks for its own targets.**  A target is asked for itself where the path starts where the
authority of its scheme ends, unless the path of a file starts with a drive letter.  And of the paths there
are no others that let every backend of the web be asked for itself. -/
theorem asks_itself (canonical : Idna.IsCanonical toAscii) (p : Probe) :
    (∀ raw target, Endpoint.parseWith toAscii raw = .ok target →
      LeavesAuthority (Url.SchemeKind.of target.scheme.toList) p.path → p.AsksItself toAscii target) ∧
    ((∀ raw target, Endpoint.parseWith toAscii raw = .ok target →
        (∃ default, Url.SchemeKind.of target.scheme.toList = .web default) → p.AsksItself toAscii target) ↔
      Url.StartsTail true (Url.cleanedEnd p.path.toList)) := by
  have hleaves : ∀ raw target, Endpoint.parseWith toAscii raw = .ok target →
      LeavesAuthority (Url.SchemeKind.of target.scheme.toList) p.path → p.AsksItself toAscii target := by
    intro raw target hread hpath
    obtain ⟨scheme, host, port, hsite, rfl⟩ := Endpoint.exists_isSite canonical hread
    rw [Endpoint.ofSite, String.toList_ofList] at hpath
    exact ⟨_, Endpoint.parseWith_ofSite canonical hsite hpath.startsTail hpath.drive, rfl⟩
  refine ⟨hleaves, fun hall => ?_, ?_⟩
  · -- two loopback addresses tell the paths apart
    have hasks (ip : Net.Ipv6) : p.AsksItself toAscii (.ofSite "http".toList (.ipv6 ip) (some 1)) := by
      have hstart : Url.StartsTail true (Url.cleanedEnd "".toList) := fun c hc => by cases hc
      have hread := Endpoint.parseWith_ofSite canonical (Url.isSite_one toAscii ip) hstart
        fun hfile => by cases hfile
      refine hall _ _ hread ⟨80, ?_⟩
      rw [Endpoint.ofSite, String.toList_ofList]
      rfl
    have hne : (⟨[0, 0, 0, 0, 0, 0, 0, 1], rfl⟩ : Net.Ipv6) ≠ ⟨[0, 0, 0, 0, 0, 0, 0, 2], rfl⟩ := by decide
    exact startsTail_of_asksItself canonical hne (hasks _) (hasks _)
  · rintro hpath raw target hread ⟨default, hkind⟩
    refine hleaves raw target hread ⟨?_, fun hfile => by cases hkind.symm.trans hfile⟩
    rw [hkind]
    exact hpath

/-- Where `/ready` is asked, a backend is asked for itself, however its URL is written; where `0/ready` is
asked, not every backend is. -/
theorem asks_itself_ready :
    Idna.IsCanonical Idna.lowerCase ∧
    (∃ target, Endpoint.parseWith Idna.lowerCase "HTTP://user@Backend:8080/x" = .ok target ∧
      target.identity = ("http", "backend:8080") ∧
      (start [target] "/ready" ⟨2000000000⟩ 10).AsksItself Idna.lowerCase target) ∧
    ¬ ∀ raw target, Endpoint.parseWith Idna.lowerCase raw = .ok target →
        (∃ default, Url.SchemeKind.of target.scheme.toList = .web default) →
        (start [target] "0/ready" ⟨2000000000⟩ 10).AsksItself Idna.lowerCase target := by
  refine ⟨Idna.isCanonical_lowerCase, ⟨⟨"http", "backend:8080", true, {}⟩, by decide +kernel, rfl, ?_⟩, ?_⟩
  · have hready : Url.cleanedEnd "/ready".toList = "/ready".toList := by decide
    refine (asks_itself Idna.isCanonical_lowerCase _).1 "HTTP://user@Backend:8080/x" _ (by decide +kernel)
      ⟨?_, fun hfile => by cases hfile⟩
    intro c hc
    rw [start, hready] at hc
    cases hc
    rfl
  · intro hall
    have hzero : Url.cleanedEnd "0/ready".toList = "0/ready".toList := by decide
    have hstart := (asks_itself Idna.isCanonical_lowerCase (start [] "0/ready" ⟨2000000000⟩ 10)).2.1 hall
    rw [start, hzero] at hstart
    exact absurd (hstart '0' rfl) (by decide)

/-- A probe of port 808 with a path that starts with a digit. -/
def astray : ProbeConfig := { endpoints := ["http://[::1]:808"], path := "0/ready" }

/-- The configuration is accepted, and what is asked in place of port 808 is port 8080. -/
theorem asks_another :
    ({ locators := [.probe astray] } : Config).validate = .ok () ∧
    ∃ p target, Locator.ofConfig (.probe astray) = .ok (.probe p) ∧ p.targets = [target] ∧
      target.identity = ("http", "[::1]:808") ∧
      Network.checkUrl (p.urlOf target) = .ok "http://[::1]:8080/ready" ∧
      (Endpoint.parse (p.urlOf target)).toOption.map Endpoint.identity = some ("http", "[::1]:8080") := by
  refine ⟨rfl, start [⟨"http", "[::1]:808", true, {}⟩] "0/ready" ⟨2000000000⟩ 10,
    ⟨"http", "[::1]:808", true, {}⟩, rfl, rfl, rfl, rfl, rfl⟩

end Probe

end Switchyard
