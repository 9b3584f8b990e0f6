/-
What a URL names, and how it is read back.

`IsSite` says which scheme, host and port a URL that was read can have (`isSite_of_parseWith`).  The text of
such a site is read as a URL of that site in front of any path that does not go on with the authority
(`IsSite.parseWith_append`).
-/
import Switchyard.Endpoint
import Switchyard.Proofs.Url.Authority
import Switchyard.Proofs.Url.Scheme

namespace Switchyard

namespace Url

variable {toAscii kept : List Char → Option (List Char)} {scheme cs rest : List Char} {kind : SchemeKind}
  {host : Host} {port : Option UInt16} {u : Url}

/-! ## Authorities that were read -/

theorem ne_default_of_readPort {default : UInt16} (h : readPort (.web default) cs = .ok (port, rest)) :
    port ≠ some default := by
  rw [readPort.eq_def] at h
  split at h
  · rcases of_readPortDigits (Nat.zero_le _) h with rfl | ⟨_, -, hne, -⟩
    · exact fun hnone => Option.some_ne_none _ hnone.symm
    · exact hne
  · cases h
    exact fun hnone => Option.some_ne_none _ hnone.symm

/-- What is read of an authority: after the user a host, and after the host a port. -/
theorem of_readAuthority (h : readAuthority toAscii scheme kind cs = .ok u) :
    ∃ user after tail, readUser kind.special cs = .ok (user, after) ∧ u.scheme = scheme ∧
      hostOf toAscii kind.special (spanHost kind.special after false).1 = .ok u.host ∧
      readPort kind (spanHost kind.special after false).2 = .ok (u.port, tail) := by
  obtain ⟨⟨user, after⟩, huser, h⟩ := exists_of_bind_eq_ok h
  obtain ⟨host, hhost, h⟩ := exists_of_bind_eq_ok h
  dsimp only at hhost h
  split at h
  · cases h
  · obtain ⟨⟨port, tail⟩, hport, h⟩ := exists_of_bind_eq_ok h
    dsimp only at h
    split at h
    · cases h
    · cases h
      exact ⟨user, after, tail, huser, rfl, hhost, hport⟩

theorem site_of_readAuthority (settles : Idna.Settles toAscii kept)
    (h : readAuthority toAscii scheme kind cs = .ok u) (hhost : u.host = some host) :
    u.scheme = scheme ∧ IsHost kept kind.special host ∧
      ∀ default, kind = .web default → u.port ≠ some default := by
  obtain ⟨_, _, _, _, hscheme, hread, hport⟩ := of_readAuthority h
  rw [hhost] at hread
  refine ⟨hscheme, isHost_of_hostOf settles hread, ?_⟩
  rintro default rfl
  exact ne_default_of_readPort hport

theorem scheme_of_readFile (h : readFile toAscii cs = .ok u) : u.scheme = "file".toList := by
  have hfile {host : Option Host} {tail : Tail} (h : Except.ok (fileUrl host tail) = (.ok u : Except UrlError Url)) :
      u.scheme = "file".toList := by
    cases h
    rfl
  rw [readFile.eq_def] at h
  split at h
  · dsimp only at h
    split at h
    · split at h
      · exact hfile h
      · split at h
        · exact hfile h
        · obtain ⟨host, -, h⟩ := exists_of_bind_eq_ok h
          exact hfile h
    · exact hfile h
  · exact hfile h

theorem site_of_readFile (settles : Idna.Settles toAscii kept)
    (h : readFile toAscii cs = .ok u) (hhost : u.host = some host) :
    u.scheme = "file".toList ∧ u.port = none ∧ IsHost kept true host ∧
      host ≠ .name "localhost".toList := by
  -- without a host there is nothing to show
  have hnone {tail : Tail} (h : Except.ok (fileUrl none tail) = (.ok u : Except UrlError Url)) :
      u.host = none := by
    cases h
    exact ite_self _
  rw [readFile.eq_def] at h
  split at h
  · dsimp only at h
    split at h
    · split at h
      · cases (hnone h).symm.trans hhost
      · split at h
        · cases (hnone h).symm.trans hhost
        · -- a host was read, and neither a drive letter nor `localhost` has taken it away again
          obtain ⟨read, hread, h⟩ := exists_of_bind_eq_ok h
          cases h
          simp only [fileUrl] at hhost
          split at hhost
          · cases hhost
          · split at hhost
            · cases hhost
            · rename_i hlocal
              cases hhost
              exact ⟨rfl, rfl, isHost_of_readHost settles hread, hlocal⟩
    · cases (hnone h).symm.trans hhost
  · cases (hnone h).symm.trans hhost

/-! ## Sites -/

/-- Scheme, host and port as they are read: no port is the default of its scheme, and a file has no port and
is not on this machine. -/
structure IsSite (toAscii : List Char → Option (List Char)) (scheme : List Char) (host : Host)
    (port : Option UInt16) : Prop where
  isScheme : IsScheme scheme
  isHost : IsHost toAscii (SchemeKind.of scheme).special host
  ne_default : ∀ default, SchemeKind.of scheme = .web default → port ≠ some default
  of_file : SchemeKind.of scheme = .file → port = none ∧ host ≠ .name "localhost".toList

theorem SchemeKind.of_eq_file_iff : SchemeKind.of scheme = .file ↔ scheme = "file".toList := by
  rw [SchemeKind.of]
  split
  · rename_i h
    rcases h with rfl | rfl <;> decide
  · split
    · rename_i h
      rcases h with rfl | rfl <;> decide
    · split
      · rename_i h
        subst h
        decide
      · split
        · rename_i h
          exact iff_of_true rfl h
        · rename_i h
          exact iff_of_false (by decide) h

/-- The scheme of a URL that was read is in lower case, and has no colon. -/
theorem isScheme_of_parseWith (h : parseWith toAscii cs = .ok u) : IsScheme u.scheme := by
  rw [parseWith] at h
  split at h
  · cases h
  · rename_i scheme rest hscheme
    have hisScheme := isScheme_of_readScheme hscheme
    split at h
    · rename_i hkind
      rw [scheme_of_readFile h, ← SchemeKind.of_eq_file_iff.1 hkind]
      exact hisScheme
    · obtain ⟨_, _, _, _, hname, _⟩ := of_readAuthority h
      exact hname ▸ hisScheme
    · split at h
      · obtain ⟨_, _, _, _, hname, _⟩ := of_readAuthority h
        exact hname ▸ hisScheme
      · cases h
        exact hisScheme

/-- **A URL that was read has a site, if it has a host.** -/
theorem isSite_of_parseWith (settles : Idna.Settles toAscii kept) (h : parseWith toAscii cs = .ok u)
    (hhost : u.host = some host) : IsSite kept u.scheme host u.port := by
  have hisScheme := isScheme_of_parseWith h
  rw [parseWith] at h
  split at h
  · cases h
  · rename_i scheme rest _
    split at h
    · -- the scheme of files
      obtain ⟨hname, hport, hisHost, hlocal⟩ := site_of_readFile settles h hhost
      have hfile : SchemeKind.of u.scheme = .file := SchemeKind.of_eq_file_iff.2 hname
      refine ⟨hisScheme, ?_, ?_, fun _ => ⟨hport, hlocal⟩⟩
      · rw [hfile]
        exact hisHost
      · intro default hweb
        cases hfile.symm.trans hweb
    · -- a special scheme, which has an authority
      rename_i default hkind
      obtain ⟨hname, hisHost, hport⟩ := site_of_readAuthority settles h hhost
      subst hname
      rw [← hkind] at hisHost hport
      refine ⟨hisScheme, hisHost, hport, fun hfile => ?_⟩
      cases hkind.symm.trans hfile
    · -- any other scheme, which has a host only after two slashes
      rename_i hkind
      split at h
      · obtain ⟨hname, hisHost, hport⟩ := site_of_readAuthority settles h hhost
        subst hname
        rw [← hkind] at hisHost hport
        refine ⟨hisScheme, hisHost, hport, fun hfile => ?_⟩
        cases hkind.symm.trans hfile
      · cases h
        cases hhost

/-- The text that names a site. -/
def siteText (scheme : List Char) (host : Host) (port : Option UInt16) : List Char :=
  scheme ++ ':' :: '/' :: '/' :: (host.text ++ portText port)

theorem IsSite.text_chars (canonical : Idna.IsCanonical toAscii) (h : IsSite toAscii scheme host port) :
    ∀ c ∈ siteText scheme host port, 0x20 < c.toNat := by
  intro c hc
  simp only [siteText, List.mem_append, List.mem_cons] at hc
  rcases hc with hc | rfl | rfl | rfl | hc
  · exact (h.isScheme.chars c hc).1.isNameChar.1.1
  · decide
  · decide
  · decide
  · exact (h.isHost.authority_chars canonical port c (List.mem_append.2 hc)).1

/-- What is read of the text of a site comes down to what its scheme makes of the rest. -/
theorem IsSite.readScheme_cleaned (canonical : Idna.IsCanonical toAscii)
    (h : IsSite toAscii scheme host port) (path : List Char) :
    readScheme (cleaned (siteText scheme host port ++ path)) =
      some (scheme, '/' :: '/' :: (host.text ++ portText port ++ cleanedEnd path)) := by
  have hne : siteText scheme host port ≠ [] := by simp [siteText]
  rw [cleaned_append hne (h.text_chars canonical), siteText, List.append_assoc, List.cons_append,
    h.isScheme.readScheme_append]
  rfl

/-- A site of the web is read as an authority, whatever follows it. -/
theorem IsSite.parseWith_web (canonical : Idna.IsCanonical toAscii) (h : IsSite toAscii scheme host port)
    {default : UInt16} (hkind : SchemeKind.of scheme = .web default) (path : List Char) :
    parseWith toAscii (siteText scheme host port ++ path) =
      readAuthority toAscii scheme (.web default) (host.text ++ portText port ++ cleanedEnd path) := by
  have hslashes : ('/' :: '/' :: (host.text ++ portText port ++ cleanedEnd path)).dropWhile
      (fun c => decide (c = '/' ∨ c = '\\')) = host.text ++ portText port ++ cleanedEnd path := by
    obtain ⟨c, text, hcons⟩ := List.exists_cons_of_ne_nil h.isHost.text_ne_nil
    have hc := (h.isHost.text_chars canonical c (hcons ▸ List.mem_cons_self)).2.1
    have hslash : c ≠ '/' := by
      rintro rfl
      exact absurd hc (by decide)
    have hback : c ≠ '\\' := by
      rintro rfl
      exact absurd hc (by decide)
    simp [hcons, hslash, hback]
  rw [parseWith, h.readScheme_cleaned canonical]
  dsimp only
  rw [hkind]
  dsimp only
  rw [hslashes]

/-- **A site is read back from its text.**  What follows must not go on with the authority, and after the
host of a file it must not start with a drive letter, which takes the place of a host. -/
theorem IsSite.parseWith_append (canonical : Idna.IsCanonical toAscii) (h : IsSite toAscii scheme host port)
    {path : List Char} (hpath : StartsTail (SchemeKind.of scheme).special (cleanedEnd path))
    (hdrive : SchemeKind.of scheme = .file → (readTail .file (cleanedEnd path)).drive = false) :
    ∃ u, parseWith toAscii (siteText scheme host port ++ path) = .ok u ∧
      u.scheme = scheme ∧ u.host = some host ∧ u.port = port := by
  have hisHost := h.isHost
  cases hkind : SchemeKind.of scheme with
  | file =>
    obtain ⟨hport, hlocal⟩ := h.of_file hkind
    rw [hkind] at hpath hisHost
    refine ⟨fileUrl (some host) (readTail .file (cleanedEnd path)), ?_, ?_, ?_, hport.symm⟩
    · rw [parseWith, h.readScheme_cleaned canonical, hport]
      dsimp only
      rw [hkind, portText, List.append_nil]
      exact readFile_text canonical hisHost hlocal hpath
    · exact (SchemeKind.of_eq_file_iff.1 hkind).symm
    · simp [fileUrl, hdrive hkind]
  | web default =>
    rw [hkind] at hpath hisHost
    refine ⟨siteUrl scheme host port (readTail (.web default) (cleanedEnd path)), ?_, rfl, rfl, rfl⟩
    rw [h.parseWith_web canonical hkind]
    exact readAuthority_text canonical hisHost (fun d hd => h.ne_default d (hkind.trans hd)) hpath
  | other =>
    rw [hkind] at hpath hisHost
    refine ⟨siteUrl scheme host port (readTail .other (cleanedEnd path)), ?_, rfl, rfl, rfl⟩
    rw [parseWith, h.readScheme_cleaned canonical]
    dsimp only
    rw [hkind]
    exact readAuthority_text canonical hisHost (fun d hd => by cases hd) hpath

/-! ## Endpoints -/

theorem authority?_of_host (h : u.host = some host) : u.authority? = some (host.text ++ portText u.port) := by
  rw [authority?, h, Option.map_some]
  cases u.port with
  | none => rw [portText, List.append_nil]
  | some port => rfl

end Url

namespace Endpoint

variable {toAscii kept : List Char → Option (List Char)} {raw : String} {e : Endpoint}

/-- The endpoint that a site is. -/
def ofSite (scheme : List Char) (host : Url.Host) (port : Option UInt16) : Endpoint :=
  { scheme := String.ofList scheme, authority := String.ofList (host.text ++ Url.portText port) }

theorem ofUrl?_of_host {u : Url} {host : Url.Host} (h : u.host = some host) :
    ofUrl? u = some (ofSite u.scheme host u.port) := by
  rw [ofUrl?, Url.authority?_of_host h]
  rfl

theorem toList_backend_ofSite (scheme : List Char) (host : Url.Host) (port : Option UInt16) :
    (ofSite scheme host port).backend.toList = Url.siteText scheme host port := by
  simp [backend, ofSite, Url.siteText]

theorem parseWith_eq_ok_iff :
    parseWith toAscii raw = .ok e ↔
      ∃ u host, Url.parseWith toAscii raw.toList = .ok u ∧ u.host = some host ∧
        e = ofSite u.scheme host u.port := by
  rw [parseWith]
  cases hread : Url.parseWith toAscii raw.toList with
  | error cause => simp
  | ok u =>
    cases hhost : u.host with
    | none => simp [ofUrl?, Url.authority?, hhost]
    | some host => simp [ofUrl?_of_host hhost, hhost, eq_comm]

/-- An endpoint that was read is a site. -/
theorem exists_isSite_of_settles (settles : Idna.Settles toAscii kept) (h : parseWith toAscii raw = .ok e) :
    ∃ scheme host port, Url.IsSite kept scheme host port ∧ e = ofSite scheme host port := by
  obtain ⟨u, host, hread, hhost, rfl⟩ := parseWith_eq_ok_iff.1 h
  exact ⟨u.scheme, host, u.port, Url.isSite_of_parseWith settles hread hhost, rfl⟩

theorem exists_isSite (canonical : Idna.IsCanonical toAscii) (h : parseWith toAscii raw = .ok e) :
    ∃ scheme host port, Url.IsSite toAscii scheme host port ∧ e = ofSite scheme host port :=
  exists_isSite_of_settles canonical.settles h

/-- An endpoint is read back from the text that names it, whatever follows that does not go on with the
authority. -/
theorem parseWith_ofSite (canonical : Idna.IsCanonical toAscii) {scheme : List Char}
    {host : Url.Host} {port : Option UInt16} (h : Url.IsSite toAscii scheme host port) {path : String}
    (hpath : Url.StartsTail (Url.SchemeKind.of scheme).special (Url.cleanedEnd path.toList))
    (hdrive : Url.SchemeKind.of scheme = .file →
      (Url.readTail .file (Url.cleanedEnd path.toList)).drive = false) :
    parseWith toAscii ((ofSite scheme host port).backend ++ path) = .ok (ofSite scheme host port) := by
  obtain ⟨u, hread, hscheme, hhost, hport⟩ := h.parseWith_append canonical hpath hdrive
  rw [parseWith_eq_ok_iff]
  refine ⟨u, host, ?_, hhost, ?_⟩
  · rw [String.toList_append, toList_backend_ofSite]
    exact hread
  · rw [hscheme, hport]

end Endpoint

end Switchyard
