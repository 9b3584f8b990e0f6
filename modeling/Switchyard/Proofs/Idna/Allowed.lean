/-
What the ASCII form of a domain holds.

The digits of the ASCII form of a label are letters and figures, its other characters are those of the domain,
and a domain with a forbidden character has no ASCII form.  So no such form holds one: `settles_toAscii`.
-/
import Switchyard.Proofs.Idna.Canonical

namespace Switchyard

/-! ## Elements of joined lists -/

theorem Text.of_mem_joinWith {α : Type} {sep x : α} {pieces : List (List α)}
    (h : x ∈ joinWith sep pieces) : x = sep ∨ ∃ piece ∈ pieces, x ∈ piece := by
  fun_induction joinWith sep pieces with
  | case1 => cases h
  | case2 piece => exact .inr ⟨piece, List.mem_cons_self, h⟩
  | case3 piece pieces _ ih =>
    rcases List.mem_append.1 h with hx | hx
    · exact .inr ⟨piece, List.mem_cons_self, hx⟩
    · rcases List.mem_cons.1 hx with rfl | hx
      · exact .inl rfl
      · exact (ih hx).imp_right fun ⟨later, hlater, hx⟩ => ⟨later, List.mem_cons_of_mem piece hlater, hx⟩

theorem Text.mem_joinWith {α : Type} {sep x : α} {pieces : List (List α)} {piece : List α}
    (hpiece : piece ∈ pieces) (hx : x ∈ piece) : x ∈ joinWith sep pieces := by
  fun_induction joinWith sep pieces with
  | case1 => cases hpiece
  | case2 => exact List.mem_singleton.1 hpiece ▸ hx
  | case3 first pieces _ ih =>
    rcases List.mem_cons.1 hpiece with rfl | hpiece
    · exact List.mem_append_left _ hx
    · exact List.mem_append_right _ (List.mem_cons_of_mem sep (ih hpiece))

theorem exists_of_mapM_eq_some {α β : Type} {f : α → Option β} {xs : List α} {ys : List β} {y : β}
    (h : xs.mapM f = some ys) (hy : y ∈ ys) : ∃ x ∈ xs, f x = some y := by
  induction xs generalizing ys with
  | nil =>
    cases h
    cases hy
  | cons x xs ih =>
    rw [List.mapM_cons] at h
    obtain ⟨first, hfirst, h⟩ := Option.bind_eq_some_iff.1 h
    obtain ⟨later, hlater, h⟩ := Option.bind_eq_some_iff.1 h
    cases h
    rcases List.mem_cons.1 hy with rfl | hy
    · exact ⟨x, List.mem_cons_self, hfirst⟩
    · obtain ⟨z, hz, hfound⟩ := ih hlater hy
      exact ⟨z, List.mem_cons_of_mem x hz, hfound⟩

namespace Idna

/-- A character that a domain may hold: ASCII, and not forbidden. -/
def IsAllowed (c : Char) : Prop := c.toNat < 0x80 ∧ isForbiddenAscii c.toNat = false

instance (c : Char) : Decidable (IsAllowed c) := inferInstanceAs (Decidable (_ ∧ _))

theorem isAllowed_ofNat {n : Nat} (hn : n < 0x80) (h : isForbiddenAscii n = false) :
    IsAllowed (Char.ofNat n) := by
  have all : ∀ m : Fin 128, isForbiddenAscii m = false → IsAllowed (Char.ofNat m) := by decide +kernel
  exact all ⟨n, hn⟩ h

/-! ## The ASCII form of a label -/

namespace Punycode

theorem isAllowed_digit {d : Nat} (h : d < 36) : IsAllowed (digit d) := by
  have all : ∀ e : Fin 36, IsAllowed (digit e) := by decide +kernel
  exact all ⟨d, h⟩

theorem isAllowed_encodeNumber (bias position q : Nat) : ∀ c ∈ encodeNumber bias position q, IsAllowed c := by
  fun_induction encodeNumber bias position q with
  | case1 position q t hq =>
    have ht : t ≤ 26 := threshold_le position bias
    intro c hc
    rw [List.mem_singleton.1 hc]
    exact isAllowed_digit (by omega)
  | case2 position q t hq ih =>
    have ht : t ≤ 26 := threshold_le position bias
    have hdigit : (q - t) % (36 - t) < 36 - t := Nat.mod_lt _ (by omega)
    intro c hc
    rcases List.mem_cons.1 hc with rfl | hc
    · exact isAllowed_digit (by omega)
    · exact ih c hc

theorem isAllowed_writePass (m : Nat) (label : List Nat) (w : Writer) :
    ∀ c ∈ (writePass m label w).1, IsAllowed c := by
  fun_induction writePass m label w with
  | case1 => exact fun c hc => absurd hc List.not_mem_nil
  | case2 _ _ _ _ ih => exact ih
  | case3 _ _ _ number _ ih =>
    intro c hc
    rcases List.mem_append.1 hc with hc | hc
    · exact isAllowed_encodeNumber _ _ _ c hc
    · exact ih c hc
  | case4 _ _ _ _ _ ih => exact ih

theorem isAllowed_writeAll (label ms : List Nat) (previous : Nat) (w : Writer) :
    ∀ c ∈ writeAll label ms previous w, IsAllowed c := by
  induction ms generalizing previous w with
  | nil => exact fun c hc => absurd hc List.not_mem_nil
  | cons m ms ih =>
    intro c hc
    rw [writeAll] at hc
    rcases List.mem_append.1 hc with hc | hc
    · exact isAllowed_writePass _ _ _ c hc
    · exact ih _ _ c hc

/-- The ASCII form of a label holds letters, figures, a hyphen and what the label itself holds of ASCII. -/
theorem isAllowed_encode {label : List Nat} (h : ∀ n ∈ label, isForbiddenAscii n = false) :
    ∀ c ∈ encode label, IsAllowed c := by
  intro c hc
  rw [encode] at hc
  rcases List.mem_append.1 hc with hc | hc
  · rcases List.mem_append.1 hc with hc | hc
    · obtain ⟨n, hn, rfl⟩ := List.mem_map.1 hc
      obtain ⟨hmem, hlow⟩ := List.mem_filter.1 hn
      exact isAllowed_ofNat (of_decide_eq_true hlow) (h n hmem)
    · split at hc
      · cases hc
      · rw [List.mem_singleton.1 hc]
        decide
  · exact isAllowed_writeAll _ _ _ _ c hc

end Punycode

/-! ## Domains -/

theorem isAllowed_of_read {ns : List Nat} {label : Label} (hread : Label.read ns = some label)
    (h : ∀ n ∈ ns, isForbiddenAscii n = false) : ∀ c ∈ label.ascii, IsAllowed c := by
  -- ASCII is kept as it is
  have hkept (hns : ∀ n ∈ ns, n < 128) : ∀ c ∈ ns.map Char.ofNat, IsAllowed c := by
    intro c hc
    obtain ⟨n, hn, rfl⟩ := List.mem_map.1 hc
    exact isAllowed_ofNat (hns n hn) (h n hn)
  have hascii {form : List Nat} (hform : isAscii form = true) : ∀ n ∈ form, n < 128 :=
    fun n hn => of_decide_eq_true (List.all_eq_true.1 hform n hn)
  rw [Label.read] at hread
  split at hread
  · rename_i hmark
    obtain ⟨codes, hunmark, hread⟩ := Option.bind_eq_some_iff.1 hread
    split at hread
    · cases hread
      refine hkept fun n hn => ?_
      rw [← List.take_append_drop 4 ns, List.mem_append, hmark] at hn
      rcases hn with hn | hn
      · exact hascii (by decide) n hn
      · -- a form that is read back is ASCII
        rw [unmark] at hunmark
        split at hunmark
        · rename_i hform
          exact hascii hform n hn
        · cases hunmark
    · cases hread
  · split at hread
    · rename_i hplain
      cases hread
      exact hkept (hascii hplain)
    · split at hread
      · cases hread
        intro c hc
        rcases List.mem_append.1 hc with hc | hc
        · have hall : "xn--".toList.all (fun c => decide (IsAllowed c)) = true := by decide
          exact of_decide_eq_true (List.all_eq_true.1 hall c hc)
        · exact Punycode.isAllowed_encode h c hc
      · cases hread

/-- **The ASCII form of a domain holds no forbidden character.** -/
theorem isAllowed_of_toAscii {cs d : List Char} (h : toAscii cs = some d) : ∀ c ∈ d, IsAllowed c := by
  obtain ⟨ns, -, h⟩ := Option.bind_eq_some_iff.1 h
  split at h
  · cases h
  · rename_i hallowed
    obtain ⟨labels, hlabels, h⟩ := Option.bind_eq_some_iff.1 h
    dsimp only at h
    split at h
    · cases h
    · cases h
      intro c hc
      rcases Text.of_mem_joinWith hc with rfl | ⟨ascii, hascii, hc⟩
      · decide
      · obtain ⟨label, hlabel, rfl⟩ := List.mem_map.1 hascii
        obtain ⟨piece, hpiece, hread⟩ := exists_of_mapM_eq_some hlabels hlabel
        refine isAllowed_of_read hread (fun n hn => ?_) c hc
        have hmem : n ∈ ns := by
          rw [← Text.joinWith_splitAll 46 ns]
          exact Text.mem_joinWith hpiece hn
        rw [← Bool.not_eq_true]
        exact fun hforbidden => hallowed (List.any_eq_true.2 ⟨n, hmem, hforbidden⟩)

/-! ## Domains that are left as they are -/

/-- Domains without forbidden characters as they are, and no others. -/
def asWritten (cs : List Char) : Option (List Char) :=
  if cs.all fun c => decide (IsAllowed c) then some cs else none

theorem asWritten_eq_some_iff {cs d : List Char} :
    asWritten cs = some d ↔ (∀ c ∈ cs, IsAllowed c) ∧ cs = d := by
  rw [asWritten, Option.ite_none_right_eq_some, List.all_eq_true, Option.some.injEq]
  simp only [decide_eq_true_eq]

theorem settles_toAscii : Settles toAscii asWritten := fun _ _ h =>
  asWritten_eq_some_iff.2 ⟨isAllowed_of_toAscii h, rfl⟩

theorem isCanonical_asWritten : IsCanonical asWritten := by
  refine ⟨?allowed, ?stable, ?dotted⟩
  case allowed =>
    intro cs d h
    obtain ⟨hall, rfl⟩ := asWritten_eq_some_iff.1 h
    exact hall
  case stable =>
    intro cs d h
    obtain ⟨-, rfl⟩ := asWritten_eq_some_iff.1 h
    exact h
  case dotted =>
    intro ip
    refine asWritten_eq_some_iff.2 ⟨fun c hc => ?_, rfl⟩
    rcases Net.Ipv4.mem_text_cases hc with rfl | hdigit
    · decide
    · have hplain : isPlain c = true := by simp [isPlain, Char.isAlphanum, hdigit]
      obtain ⟨hlow, hallowed, -, -, hstays⟩ := isPlain_toLower hplain
      rw [hstays (.inr hdigit)] at hlow hallowed
      exact ⟨hlow, hallowed⟩

end Idna

end Switchyard
