/-
Addresses are read back from their text.

A number is read back in front of anything that does not go on with a digit, groups in front of anything
that does not go on with a group, and so a whole version 6 address: `Ipv6.ofText?_text`.
-/
import Switchyard.Proofs.Net.Address

namespace Switchyard.Net

open Text (hex)

/-! ## Numbers -/

/-- A digit does not come first. -/
def StartsNoDigit (base : Nat) (rest : List Char) : Prop :=
  ∀ c, rest.head? = some c → Text.digitValue? base c = none

/-- The digits at the front are all those that spell the number. -/
theorem spanDigits_append {base acc value count : Nat} {digits rest : List Char}
    (h : Text.readDigits base acc digits = some value) (hrest : StartsNoDigit base rest) :
    spanDigits base (digits ++ rest) acc count = (value, count + digits.length, rest) := by
  induction digits generalizing acc count with
  | nil =>
    cases h
    cases rest with
    | nil => rfl
    | cons c rest => simp [spanDigits, hrest c rfl]
  | cons c digits ih =>
    rw [Text.readDigits, Option.bind_eq_some_iff] at h
    obtain ⟨d, hd, hdigits⟩ := h
    rw [List.cons_append, spanDigits, hd]
    simp only
    rw [ih hdigits, List.length_cons]
    congr 2
    omega

theorem suffix_of_spanDigits (base : Nat) (cs : List Char) (acc count : Nat) :
    (spanDigits base cs acc count).2.2 <:+ cs := by
  induction cs generalizing acc count with
  | nil => exact List.suffix_rfl
  | cons c cs ih =>
    rw [spanDigits]
    split
    · exact (ih _ _).trans (List.suffix_cons c cs)
    · exact List.suffix_rfl

theorem suffix_of_readNumber {form : NumberForm} {cs rest : List Char} {n : Nat}
    (h : readNumber form cs = some (n, rest)) : rest <:+ cs := by
  simp only [readNumber] at h
  split at h
  · cases h
  · cases h
    exact suffix_of_spanDigits _ _ _ _

theorem eq_cons_of_readSeparator {sep : Char} {index : Nat} {cs rest : List Char} (hindex : index ≠ 0)
    (h : readSeparator sep index cs = some rest) : cs = sep :: rest := by
  cases cs with
  | nil => simp [readSeparator, hindex] at h
  | cons c cs =>
    by_cases hc : c = sep
    · simp only [readSeparator, if_neg hindex, if_pos hc, Option.some.injEq] at h
      rw [hc, h]
    · simp [readSeparator, hindex, hc] at h

@[simp] theorem readSeparator_zero (sep : Char) (cs : List Char) : readSeparator sep 0 cs = some cs := by
  cases cs <;> rfl

/-- There is no dotted address without a dot. -/
theorem Ipv4.read_eq_none {cs : List Char} (h : '.' ∉ cs) : Ipv4.read cs = none := by
  rw [Ipv4.read]
  cases hnumber : readNumber part cs with
  | none => rfl
  | some first =>
    -- the first dot would come right after the first number
    obtain ⟨a, rest⟩ := first
    cases hdot : readSeparator '.' 1 rest with
    | none => simp [hdot]
    | some after =>
      have hrest := eq_cons_of_readSeparator Nat.one_ne_zero hdot
      have hmem : '.' ∈ cs := (suffix_of_readNumber hnumber).subset (hrest ▸ List.mem_cons_self)
      exact absurd hmem h

namespace Ipv6

/-! ## Groups -/

/-- Groups that are not the first, each behind its colon. -/
def laterText (gs : List UInt16) : List Char := gs.flatMap fun g => ':' :: hex g.toNat

theorem laterText_cons (g : UInt16) (gs : List UInt16) :
    laterText (g :: gs) = ':' :: (hex g.toNat ++ laterText gs) := rfl

theorem groupsText_cons (g : UInt16) (gs : List UInt16) :
    groupsText (g :: gs) = hex g.toNat ++ laterText gs := by
  induction gs generalizing g with
  | nil => simp [groupsText, laterText]
  | cons g' gs ih => rw [groupsText, ih, laterText_cons]; simp

theorem readNumber_hex (g : UInt16) {rest : List Char} (hrest : StartsNoDigit 16 rest) :
    readNumber group (hex g.toNat ++ rest) = some (g.toNat, rest) := by
  have hread : Text.readDigits 16 0 (hex g.toNat) = some g.toNat :=
    Text.readDigits_toDigits (by decide) (by decide) _
  have hpos : 0 < (hex g.toNat).length := List.length_pos_iff.2 (Text.hex_ne_nil _)
  have hshort : (hex g.toNat).length ≤ 4 :=
    (Nat.length_toDigits_le_iff (by decide) (by decide)).2 g.toNat_lt
  have hbound : g.toNat < 65536 := g.toNat_lt
  have hspan : spanDigits group.base (hex g.toNat ++ rest) 0 0 =
      (g.toNat, 0 + (hex g.toNat).length, rest) := spanDigits_append hread hrest
  simp only [readNumber, hspan, Nat.zero_add]
  rw [if_neg]
  simp only [group, Option.any_some, decide_eq_true_eq, Bool.not_true, Bool.and_false, Bool.false_eq_true,
    false_or, not_or]
  omega

/-- What cannot go on with a group: the end, or a gap. -/
inductive EndsGroups : List Char → Prop
  | nil : EndsGroups []
  | gap (rest : List Char) : EndsGroups (':' :: ':' :: rest)

theorem digitValue?_colon : Text.digitValue? 16 ':' = none := by decide

theorem EndsGroups.startsNoDigit {rest : List Char} (h : EndsGroups rest) : StartsNoDigit 16 rest := by
  intro c hc
  cases h with
  | nil => cases hc
  | gap rest =>
    cases hc
    exact digitValue?_colon

theorem startsNoDigit_laterText (gs : List UInt16) {rest : List Char} (h : EndsGroups rest) :
    StartsNoDigit 16 (laterText gs ++ rest) := by
  cases gs with
  | nil => exact h.startsNoDigit
  | cons g gs =>
    intro c hc
    cases hc
    exact digitValue?_colon

/-- A group is no number where there is no digit. -/
theorem readNumber_eq_none {rest : List Char} (h : StartsNoDigit 16 rest) :
    readNumber group rest = none := by
  have hnil : Text.readDigits 16 0 [] = some 0 := rfl
  have hspan : spanDigits group.base ([] ++ rest) 0 0 = (0, 0, rest) := spanDigits_append hnil h
  rw [List.nil_append] at hspan
  simp [readNumber, hspan]

/-- Where groups end, none is read. -/
theorem EndsGroups.readNumber_eq_none {rest : List Char} (h : EndsGroups rest) (index : Nat) :
    (readSeparator ':' index rest).bind (readNumber group) = none := by
  by_cases hindex : index = 0
  · rw [hindex, readSeparator_zero, Option.bind_some]
    exact Ipv6.readNumber_eq_none h.startsNoDigit
  · cases h with
    | nil => simp [readSeparator, hindex]
    | gap rest =>
      have hone : readSeparator ':' index (':' :: ':' :: rest) = some (':' :: rest) := by
        simp [readSeparator, hindex]
      rw [hone, Option.bind_some]
      refine Ipv6.readNumber_eq_none ?_
      intro c hc
      cases hc
      exact digitValue?_colon

/-- Without dots, no two groups are read from a dotted address. -/
theorem readDotted_eq_none {cs : List Char} (h : '.' ∉ cs) (room index : Nat) :
    (if 0 < room then (readSeparator ':' index cs).bind Ipv4.read else none) = none := by
  split
  · rw [Option.bind_eq_none_iff]
    intro rest hrest
    refine Ipv4.read_eq_none fun hdot => h ?_
    by_cases hindex : index = 0
    · rw [hindex, readSeparator_zero, Option.some.injEq] at hrest
      exact hrest ▸ hdot
    · rw [eq_cons_of_readSeparator hindex hrest]
      exact List.mem_cons_of_mem _ hdot
  · rfl

theorem readGroups_of_endsGroups {rest : List Char} (hrest : EndsGroups rest) (hdot : '.' ∉ rest)
    (room index : Nat) : readGroups room index rest = ([], false, rest) := by
  cases room with
  | zero => rfl
  | succ room => simp only [readGroups, readDotted_eq_none hdot, hrest.readNumber_eq_none]

/-- Groups behind their colons are read back, as many as there is room for. -/
theorem readGroups_laterText {gs : List UInt16} {rest : List Char} (hrest : EndsGroups rest)
    (hdot : '.' ∉ laterText gs ++ rest) {room index : Nat} (hroom : gs.length ≤ room)
    (hindex : index ≠ 0) : readGroups room index (laterText gs ++ rest) = (gs, false, rest) := by
  induction gs generalizing room index with
  | nil => exact readGroups_of_endsGroups hrest hdot room index
  | cons g gs ih =>
    obtain ⟨room, rfl⟩ := Nat.exists_eq_add_one_of_ne_zero (Nat.ne_zero_of_lt hroom)
    -- the colon, then the group behind it; a dotted address is looked for first, and there is none
    rw [laterText_cons, List.cons_append] at hdot
    have hsep : readSeparator ':' index (':' :: (hex g.toNat ++ laterText gs ++ rest)) =
        some (hex g.toNat ++ (laterText gs ++ rest)) := by
      simp [readSeparator, hindex]
    have hlater : '.' ∉ laterText gs ++ rest := by
      simp only [List.append_assoc, List.mem_cons, List.mem_append, not_or] at hdot ⊢
      exact hdot.2.2
    rw [laterText_cons, List.cons_append, readGroups, readDotted_eq_none hdot, hsep, Option.bind_some,
      readNumber_hex g (startsNoDigit_laterText gs hrest)]
    simp only
    rw [ih hlater (Nat.le_of_succ_le_succ hroom) (Nat.succ_ne_zero index), UInt16.ofNat_toNat]

/-- Groups are read back from the front of a text. -/
theorem readGroups_groupsText {gs : List UInt16} {rest : List Char} (hrest : EndsGroups rest)
    (hdot : '.' ∉ groupsText gs ++ rest) {room : Nat} (hroom : gs.length ≤ room) :
    readGroups room 0 (groupsText gs ++ rest) = (gs, false, rest) := by
  cases gs with
  | nil => exact readGroups_of_endsGroups hrest hdot room 0
  | cons g gs =>
    obtain ⟨room, rfl⟩ := Nat.exists_eq_add_one_of_ne_zero (Nat.ne_zero_of_lt hroom)
    have hlater : '.' ∉ laterText gs ++ rest := by
      rw [groupsText_cons, List.append_assoc, List.mem_append, not_or] at hdot
      exact hdot.2
    rw [readGroups, readDotted_eq_none hdot, readSeparator_zero, Option.bind_some, groupsText_cons,
      List.append_assoc, readNumber_hex g (startsNoDigit_laterText gs hrest)]
    simp only
    rw [readGroups_laterText hrest hlater (Nat.le_of_succ_le_succ hroom) Nat.one_ne_zero,
      UInt16.ofNat_toNat]

/-! ## Addresses -/

theorem ofGroups?_groups {gs : List UInt16} {ip : Ipv6} (h : ip.groups = gs) : ofGroups? gs = some ip := by
  subst h
  rw [ofGroups?, dif_pos ip.length_groups]

/-- **A version 6 address is read back from its text.** -/
theorem ofText?_text (ip : Ipv6) : ofText? ip.text = some ip := by
  have hdot : '.' ∉ ip.text := ip.dot_notMem_text
  rcases ip.text_cases_gap with h | ⟨head, zeros, tail, hzeros, hgroups, h⟩
  · -- group by group
    rw [h] at hdot ⊢
    rw [← List.append_nil (groupsText ip.groups)] at hdot ⊢
    rw [ofText?, read, readGroups_groupsText EndsGroups.nil hdot (Nat.le_of_eq ip.length_groups)]
    have hip : ofGroups? ip.groups = some ip := ofGroups?_groups rfl
    simp [ip.length_groups, hip]
  · -- what is left out are as many zeros as make eight groups
    have hlength := ip.length_groups
    rw [hgroups] at hlength
    simp only [List.length_append, List.length_replicate] at hlength
    have hmissing : 8 - head.length - tail.length = zeros := by omega
    rw [h, gapText] at hdot ⊢
    have htail : '.' ∉ groupsText tail ++ [] := by
      simp only [List.mem_append, List.mem_cons, not_or, List.append_nil] at hdot ⊢
      exact hdot.2.2.2
    rw [ofText?, read, readGroups_groupsText (EndsGroups.gap _) hdot (by omega)]
    have hread := readGroups_groupsText EndsGroups.nil htail (by omega : tail.length ≤ 7 - head.length)
    rw [List.append_nil] at hread
    simp only [hread, hmissing, ofGroups?_groups hgroups]
    rw [if_neg (by omega), if_neg Bool.false_ne_true]
    rfl

end Ipv6

end Switchyard.Net
