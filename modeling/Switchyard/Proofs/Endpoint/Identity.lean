/-
The name of a backend.

An endpoint is read back from the text that names it, and two endpoints that were read name one backend
exactly if they are named by one text: `backend_identifies`.
-/
import Switchyard.Proofs.Url.Site

namespace Switchyard

namespace Endpoint

variable {toAscii : List Char → Option (List Char)} {raw raw' : String} {e e' : Endpoint}

theorem colon_notMem_scheme (h : parseWith toAscii raw = .ok e) : ':' ∉ e.scheme.toList := by
  obtain ⟨u, host, hread, -, rfl⟩ := parseWith_eq_ok_iff.1 h
  rw [ofSite, String.toList_ofList]
  exact (Url.isScheme_of_parseWith hread).colon_notMem

/-- The text that names a backend is cut at its first colon. -/
theorem same_iff_backend_eq (h : parseWith toAscii raw = .ok e) (h' : parseWith toAscii raw' = .ok e') :
    e.same e' = true ↔ e.backend = e'.backend := by
  rw [same_iff, identity, identity, Prod.mk.injEq]
  constructor
  · rintro ⟨hscheme, hauthority⟩
    rw [backend, backend, hscheme, hauthority]
  · intro hbackend
    have hlist := congrArg String.toList hbackend
    simp only [backend, String.toList_append, List.append_assoc] at hlist
    obtain ⟨hscheme, hrest⟩ :=
      Text.append_cons_inj (colon_notMem_scheme h) (colon_notMem_scheme h') hlist
    exact ⟨String.toList_inj.1 hscheme, String.toList_inj.1 (List.append_cancel_left hrest)⟩

/-- **The name of a backend stands for it.**  If domains that were converted to ASCII stay what they are, an
endpoint is read back from the text that names it.  And however they are converted, endpoints that were read
name one backend exactly if they are named by one text. -/
theorem backend_identifies (toAscii : List Char → Option (List Char)) :
    (Idna.IsCanonical toAscii → ∀ raw e, parseWith toAscii raw = .ok e →
      parseWith toAscii e.backend = .ok e) ∧
    ∀ raw raw' e e', parseWith toAscii raw = .ok e → parseWith toAscii raw' = .ok e' →
      (e.same e' = true ↔ e.backend = e'.backend) := by
  refine ⟨fun canonical raw e h => ?_, fun raw raw' e e' => same_iff_backend_eq⟩
  obtain ⟨scheme, host, port, hsite, rfl⟩ := exists_isSite canonical h
  have hstart (special : Bool) : Url.StartsTail special (Url.cleanedEnd "".toList) := fun c hc => by cases hc
  have hread : parseWith toAscii ((ofSite scheme host port).backend ++ "") = .ok (ofSite scheme host port) :=
    parseWith_ofSite canonical hsite (hstart _) fun _ => rfl
  rwa [String.append_empty] at hread

/-- A backend is named by its address however that was written, and two ways to write a host are one. -/
theorem backend_identifies_address :
    Idna.IsCanonical Idna.lowerCase ∧
    (∃ e, parseWith Idna.lowerCase "HTTP://user@0x7F.1:80/x?y" = .ok e ∧ e.backend = "http://127.0.0.1" ∧
      parseWith Idna.lowerCase e.backend = .ok e) ∧
    ∃ e e', parseWith Idna.lowerCase "http://Backend:8080/x" = .ok e ∧
      parseWith Idna.lowerCase "http:\\\\b%61ckend:8080" = .ok e' ∧ e.backend = e'.backend ∧
      e.same e' = true := by
  obtain ⟨hread, hsame⟩ := backend_identifies Idna.lowerCase
  have haddress : parseWith Idna.lowerCase "HTTP://user@0x7F.1:80/x?y" =
      .ok { scheme := "http", authority := "127.0.0.1" } := by decide +kernel
  have hupper : parseWith Idna.lowerCase "http://Backend:8080/x" =
      .ok { scheme := "http", authority := "backend:8080" } := by decide +kernel
  have hescaped : parseWith Idna.lowerCase "http:\\\\b%61ckend:8080" =
      .ok { scheme := "http", authority := "backend:8080" } := by decide +kernel
  exact ⟨Idna.isCanonical_lowerCase,
    ⟨_, haddress, by decide, hread Idna.isCanonical_lowerCase _ _ haddress⟩,
    _, _, hupper, hescaped, rfl, (hsame _ _ _ _ hupper hescaped).2 rfl⟩

end Endpoint

end Switchyard
