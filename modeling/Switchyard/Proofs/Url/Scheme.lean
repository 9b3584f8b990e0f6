/-
Schemes are read back from their text.

A scheme that was read is in lower case (`isScheme_of_readScheme`), and is read back in front of its colon
(`IsScheme.readScheme_append`).  What readers of URLs skip at the ends and in between concerns only what
follows (`cleaned_append`).
-/
import Switchyard.Proofs.Url.Host

namespace Switchyard.Url

variable {scheme cs rest : List Char}

/-! ## What is skipped -/

/-- The end of a text without what readers of URLs skip. -/
def cleanedEnd (cs : List Char) : List Char :=
  (cs.reverse.dropWhile fun c => c.toNat ≤ 0x20).reverse.filter fun c => c ≠ '\t' ∧ c ≠ '\n' ∧ c ≠ '\r'

/-- What is skipped comes after what has no blanks and controls. -/
theorem cleaned_append (hne : cs ≠ []) (hchars : ∀ c ∈ cs, 0x20 < c.toNat) (path : List Char) :
    cleaned (cs ++ path) = cs ++ cleanedEnd path := by
  have hkept : ∀ c ∈ cs, decide (c.toNat ≤ 0x20) = false := by
    intro c hc
    rw [decide_eq_false_iff_not, Nat.not_le]
    exact hchars c hc
  -- neither end of `cs` is skipped
  have hfront : (cs ++ path).dropWhile (fun c => decide (c.toNat ≤ 0x20)) = cs ++ path := by
    obtain ⟨c, cs, rfl⟩ := List.exists_cons_of_ne_nil hne
    rw [List.cons_append, List.dropWhile_cons_of_neg]
    simpa using hkept c List.mem_cons_self
  have hback : cs.reverse.dropWhile (fun c => decide (c.toNat ≤ 0x20)) = cs.reverse := by
    obtain ⟨c, ds, hcons⟩ := List.exists_cons_of_ne_nil (List.reverse_ne_nil_iff.2 hne)
    have hc : c ∈ cs := List.mem_reverse.1 (hcons ▸ List.mem_cons_self)
    rw [hcons, List.dropWhile_cons_of_neg]
    simpa using hkept c hc
  have htrim : Text.trim (fun c => decide (c.toNat ≤ 0x20)) (cs ++ path) =
      cs ++ (path.reverse.dropWhile fun c => decide (c.toNat ≤ 0x20)).reverse := by
    rw [Text.trim, hfront, List.reverse_append, List.dropWhile_append, hback]
    split
    · rename_i hskipped
      rw [List.isEmpty_iff.1 hskipped]
      simp
    · simp
  have hfilter : cs.filter (fun c => decide (c ≠ '\t' ∧ c ≠ '\n' ∧ c ≠ '\r')) = cs := by
    rw [List.filter_eq_self]
    intro c hc
    rw [decide_eq_true_eq]
    refine ⟨?_, ?_, ?_⟩ <;> rintro rfl <;> exact absurd (hchars _ hc) (by decide)
  rw [cleaned, htrim, List.filter_append, hfilter, cleanedEnd]

/-! ## Schemes -/

/-- A character of a scheme. -/
def IsSchemeChar (c : Char) : Prop := c.isAlphanum = true ∨ c = '+' ∨ c = '-' ∨ c = '.'

instance (c : Char) : Decidable (IsSchemeChar c) := inferInstanceAs (Decidable (_ ∨ _ ∨ _ ∨ _))

/-- A scheme: a letter, and more letters, digits or marks, none of them in upper case. -/
structure IsScheme (scheme : List Char) : Prop where
  letter : ∃ c, scheme.head? = some c ∧ c.isAlpha = true
  chars : ∀ c ∈ scheme, IsSchemeChar c ∧ c.toLower = c

theorem IsSchemeChar.toNat_lt {c : Char} (h : IsSchemeChar c) : c.toNat < 0x80 := by
  rcases h with h | rfl | rfl | rfl
  · exact toNat_lt_of_isAlphanum h
  · decide
  · decide
  · decide

theorem IsSchemeChar.toLower {c : Char} (h : IsSchemeChar c) :
    IsSchemeChar c.toLower ∧ c.toLower.toLower = c.toLower ∧ c.toLower.isAlpha = c.isAlpha := by
  have hc := h.toNat_lt
  revert h
  exact of_ascii hc (by decide +kernel)

theorem IsSchemeChar.isNameChar {c : Char} (h : IsSchemeChar c) : IsNameChar c := by
  have hc := h.toNat_lt
  revert h
  exact of_ascii hc (by decide +kernel)

theorem IsScheme.colon_notMem {scheme : List Char} (h : IsScheme scheme) : ':' ∉ scheme :=
  fun hcolon => absurd (h.chars ':' hcolon).1 (by decide)

/-- A character other than the colon goes into the scheme, in lower case. -/
theorem exists_of_readSchemeRest {c : Char} (hcolon : c ≠ ':')
    (h : readSchemeRest (c :: cs) = some (scheme, rest)) :
    ∃ s, scheme = c.toLower :: s ∧ IsSchemeChar c ∧ readSchemeRest cs = some (s, rest) := by
  rw [readSchemeRest.eq_def] at h
  split at h
  · rename_i heq
    cases heq
  · rename_i heq
    exact absurd (List.cons.inj heq).1 hcolon
  · rename_i heq
    cases heq
    split at h
    · rename_i hchar
      obtain ⟨⟨s, after⟩, hrest, hcons⟩ := Option.map_eq_some_iff.1 h
      cases hcons
      exact ⟨s, rfl, hchar, hrest⟩
    · cases h

theorem chars_of_readSchemeRest (h : readSchemeRest cs = some (scheme, rest)) :
    ∀ c ∈ scheme, IsSchemeChar c ∧ c.toLower = c := by
  induction cs generalizing scheme with
  | nil => cases h
  | cons c cs ih =>
    by_cases hcolon : c = ':'
    · subst hcolon
      cases h
      simp
    · obtain ⟨s, rfl, hchar, hrest⟩ := exists_of_readSchemeRest hcolon h
      intro d hd
      rcases List.mem_cons.1 hd with rfl | hd
      · exact ⟨hchar.toLower.1, hchar.toLower.2.1⟩
      · exact ih hrest d hd

theorem isScheme_of_readScheme (h : readScheme cs = some (scheme, rest)) : IsScheme scheme := by
  cases cs with
  | nil => cases h
  | cons c cs =>
    rw [readScheme] at h
    split at h
    · rename_i halpha
      have hchars := chars_of_readSchemeRest h
      have hcolon : c ≠ ':' := by
        rintro rfl
        exact absurd halpha (by decide)
      obtain ⟨s, rfl, hchar, _⟩ := exists_of_readSchemeRest hcolon h
      exact ⟨⟨c.toLower, rfl, hchar.toLower.2.2.trans halpha⟩, hchars⟩
    · cases h

theorem readSchemeRest_append (h : ∀ c ∈ scheme, IsSchemeChar c ∧ c.toLower = c) (rest : List Char) :
    readSchemeRest (scheme ++ ':' :: rest) = some (scheme, rest) := by
  induction scheme with
  | nil => rfl
  | cons c scheme ih =>
    obtain ⟨hchar, hlower⟩ := h c List.mem_cons_self
    have hread := ih fun d hd => h d (List.mem_cons_of_mem c hd)
    rw [List.cons_append, readSchemeRest.eq_def]
    split
    · rename_i heq
      cases heq
    · rename_i heq
      rw [(List.cons.inj heq).1] at hchar
      exact absurd hchar (by decide)
    · rename_i heq
      cases heq
      refine (if_pos hchar).trans ?_
      rw [hread, Option.map_some, hlower]

/-- A scheme is read back in front of its colon. -/
theorem IsScheme.readScheme_append (h : IsScheme scheme) (rest : List Char) :
    readScheme (scheme ++ ':' :: rest) = some (scheme, rest) := by
  obtain ⟨c, hhead, halpha⟩ := h.letter
  cases scheme with
  | nil => cases hhead
  | cons d scheme =>
    cases hhead
    have hread := readSchemeRest_append h.chars rest
    rw [List.cons_append] at hread ⊢
    rw [readScheme, if_pos halpha, hread]

end Switchyard.Url
