/-
Converting domains to ASCII.

`IsCanonical` is what readers of URLs rely on: a converted domain is ASCII and stays what it is.  Writing
letters in lower case is such a conversion (`isCanonical_lowerCase`).
-/
import Switchyard.Idna.Domain
import Switchyard.Proofs.Net.Address

namespace Switchyard

/-! ## ASCII -/

/-- There are 128 ASCII characters, so that a fact about all of them is decided one by one. -/
@[elab_as_elim]
theorem of_ascii {P : Char → Prop} {c : Char} (hc : c.toNat < 0x80)
    (h : ∀ n : Fin 128, P (Char.ofNat n)) : P c := by
  have hchar := h ⟨c.toNat, hc⟩
  rwa [Char.ofNat_toNat] at hchar

theorem toNat_lt_of_isAlphanum {c : Char} (h : c.isAlphanum = true) : c.toNat < 0x80 := by
  delta Char.isAlphanum Char.isAlpha Char.isUpper Char.isLower Char.isDigit at h
  simp only [Bool.or_eq_true, Bool.and_eq_true, decide_eq_true_eq, ge_iff_le, UInt32.le_iff_toNat_le,
    Char.toNat_val] at h
  grind

namespace Idna

/-- What the conversion of domains to ASCII promises: ASCII without the characters that no domain may hold,
which is left as it is by another conversion, as are dotted addresses. -/
structure IsCanonical (toAscii : List Char → Option (List Char)) : Prop where
  allowed {cs d : List Char} : toAscii cs = some d →
    ∀ c ∈ d, c.toNat < 0x80 ∧ isForbiddenAscii c.toNat = false
  stable {cs d : List Char} : toAscii cs = some d → toAscii d = some d
  dotted (ip : Net.Ipv4) : toAscii ip.text = some ip.text

/-- What one conversion gives is left as it is by another. -/
def Settles (toAscii kept : List Char → Option (List Char)) : Prop :=
  ∀ cs d, toAscii cs = some d → kept d = some d

theorem IsCanonical.settles {toAscii : List Char → Option (List Char)} (h : IsCanonical toAscii) :
    Settles toAscii toAscii :=
  fun _ _ => h.stable

/-! ## Domains of letters -/

/-- A letter, a digit, a hyphen or a dot. -/
def isPlain (c : Char) : Bool := c.isAlphanum || c == '-' || c == '.'

/-- Domains of such characters in lower case, and no others. -/
def lowerCase (cs : List Char) : Option (List Char) :=
  if cs.all isPlain then some (cs.map Char.toLower) else none

theorem isPlain_toLower {c : Char} (h : isPlain c = true) :
    c.toLower.toNat < 0x80 ∧ isForbiddenAscii c.toLower.toNat = false ∧ isPlain c.toLower = true ∧
      c.toLower.toLower = c.toLower ∧ (c = '.' ∨ c.isDigit = true → c.toLower = c) := by
  have hlow : c.toNat < 0x80 := by
    simp only [isPlain, Bool.or_eq_true, beq_iff_eq] at h
    rcases h with (h | rfl) | rfl
    · exact toNat_lt_of_isAlphanum h
    · decide
    · decide
  revert h
  exact of_ascii hlow (by decide +kernel)

theorem isCanonical_lowerCase : IsCanonical lowerCase := by
  have hread {cs d : List Char} (h : lowerCase cs = some d) :
      (∀ c ∈ cs, isPlain c = true) ∧ cs.map Char.toLower = d := by
    rw [lowerCase] at h
    split at h
    · rename_i hall
      exact ⟨List.all_eq_true.1 hall, Option.some.inj h⟩
    · cases h
  -- a text of plain characters that are in lower case is left as it is
  have hkeep {d : List Char} (h : ∀ c ∈ d, isPlain c = true ∧ c.toLower = c) : lowerCase d = some d := by
    rw [lowerCase, if_pos (List.all_eq_true.2 fun c hc => (h c hc).1),
      List.map_congr_left fun c hc => (h c hc).2, List.map_id']
  refine ⟨?allowed, ?stable, ?dotted⟩
  case allowed =>
    intro cs d h c hc
    obtain ⟨hplain, rfl⟩ := hread h
    obtain ⟨c, hmem, rfl⟩ := List.mem_map.1 hc
    obtain ⟨hlow, hallowed, _⟩ := isPlain_toLower (hplain c hmem)
    exact ⟨hlow, hallowed⟩
  case stable =>
    intro cs d h
    obtain ⟨hplain, rfl⟩ := hread h
    refine hkeep fun c hc => ?_
    obtain ⟨c, hmem, rfl⟩ := List.mem_map.1 hc
    obtain ⟨-, -, hlower, hstays, -⟩ := isPlain_toLower (hplain c hmem)
    exact ⟨hlower, hstays⟩
  case dotted =>
    intro ip
    refine hkeep fun c hc => ?_
    have hcases := Net.Ipv4.mem_text_cases hc
    have hplain : isPlain c = true := by
      rcases hcases with rfl | hdigit
      · rfl
      · simp [isPlain, Char.isAlphanum, hdigit]
    exact ⟨hplain, (isPlain_toLower hplain).2.2.2.2 hcases⟩

end Idna

end Switchyard
