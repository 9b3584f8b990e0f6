/-
No two addresses are written alike.

The pieces of a text between dots or colons give the numbers of an address back.  `::` is the one place
where a piece of a version 6 text is empty, and what it leaves out is a run of zeros (`IsZeroRun`), whose
length follows from the eight groups.  `IpAddr.text_injective` puts both versions together.
-/
import Mathlib.Data.List.Basic
import Switchyard.Net.SocketAddr
import Switchyard.Text.Split

namespace Switchyard.Net

open Text (splitAll hex decimal)

/-! ## Version 4 -/

namespace Ipv4

theorem splitAll_text (ip : Ipv4) :
    splitAll '.' ip.text =
      [decimal ip.a.toNat, decimal ip.b.toNat, decimal ip.c.toNat, decimal ip.d.toNat] := by
  have whole : ∀ n, splitAll '.' (decimal n) = [decimal n] := fun n =>
    Text.splitAll_of_notMem (Text.notMem_decimal (by decide) n)
  simp only [text, List.append_assoc, List.cons_append, Text.splitAll_append_cons, whole]
  rfl

theorem text_injective {x y : Ipv4} (h : x.text = y.text) : x = y := by
  have hpieces := congrArg (splitAll '.') h
  rw [splitAll_text, splitAll_text] at hpieces
  simp only [List.cons.injEq, and_true] at hpieces
  obtain ⟨ha, hb, hc, hd⟩ := hpieces
  have same : ∀ {m n : UInt8}, decimal m.toNat = decimal n.toNat → m = n := fun e =>
    UInt8.toNat_inj.1 (Text.decimal_injective e)
  cases x
  cases y
  simp only [mk.injEq]
  exact ⟨same ha, same hb, same hc, same hd⟩

theorem dot_mem_text (ip : Ipv4) : '.' ∈ ip.text := by simp [text]

/-- The dotted form holds dots and decimal digits only. -/
theorem mem_text_cases {ip : Ipv4} {c : Char} (h : c ∈ ip.text) : c = '.' ∨ c.isDigit = true := by
  have hdigit {n : Nat} (hc : c ∈ decimal n) : c.isDigit = true :=
    Nat.isDigit_of_mem_toDigits (by decide) (by decide) hc
  simp only [text, List.append_assoc, List.cons_append, List.mem_append, List.mem_cons] at h
  rcases h with hc | hc | hc | hc | hc | hc | hc
  · exact .inr (hdigit hc)
  · exact .inl hc
  · exact .inr (hdigit hc)
  · exact .inl hc
  · exact .inr (hdigit hc)
  · exact .inl hc
  · exact .inr (hdigit hc)

theorem colon_notMem_text (ip : Ipv4) : ':' ∉ ip.text :=
  fun h => (mem_text_cases h).elim (by decide) (by decide)

end Ipv4

/-! ## Groups -/

namespace Ipv6

theorem splitAll_groupsText {gs : List UInt16} (h : gs ≠ []) :
    splitAll ':' (groupsText gs) = gs.map fun g => hex g.toNat := by
  have whole : ∀ n, splitAll ':' (hex n) = [hex n] := fun n =>
    Text.splitAll_of_notMem (Text.notMem_hex (by decide) n)
  fun_induction groupsText gs with
  | case1 => exact absurd rfl h
  | case2 g => simp [whole]
  | case3 g gs hne ih =>
      have hgs : gs ≠ [] := fun e => hne e
      rw [Text.splitAll_append_cons, whole, ih hgs]
      rfl

/-- Only the text of no groups at all has an empty piece. -/
theorem nil_mem_splitAll_groupsText {gs : List UInt16} :
    [] ∈ splitAll ':' (groupsText gs) ↔ gs = [] := by
  by_cases h : gs = []
  · simp [h, groupsText, splitAll]
  · rw [splitAll_groupsText h]
    simp [h, Text.hex_ne_nil]

theorem groupsText_injective {gs gs' : List UInt16} (h : groupsText gs = groupsText gs') :
    gs = gs' := by
  have hnil : gs = [] ↔ gs' = [] := by
    rw [← nil_mem_splitAll_groupsText, h, nil_mem_splitAll_groupsText]
  by_cases he : gs = []
  · rw [he, hnil.1 he]
  · have he' : gs' ≠ [] := fun e => he (hnil.2 e)
    have hpieces := congrArg (splitAll ':') h
    rw [splitAll_groupsText he, splitAll_groupsText he'] at hpieces
    refine List.map_injective_iff.2 ?_ hpieces
    intro m n e
    exact UInt16.toNat_inj.1 (Text.hex_injective e)

/-! ## The gap -/

/-- Groups on both sides of a gap. -/
def gapText (head tail : List UInt16) : List Char :=
  groupsText head ++ ':' :: ':' :: groupsText tail

theorem splitAll_gapText (head tail : List UInt16) :
    splitAll ':' (gapText head tail) =
      splitAll ':' (groupsText head) ++ [] :: splitAll ':' (groupsText tail) := by
  rw [gapText, Text.splitAll_append_cons]
  simp [splitAll]

theorem gapText_injective {head head' tail tail' : List UInt16}
    (h : gapText head tail = gapText head' tail') : head = head' ∧ tail = tail' := by
  have hpieces := congrArg (splitAll ':') h
  rw [splitAll_gapText, splitAll_gapText] at hpieces
  have pieces_nil : splitAll ':' (groupsText []) = [[]] := rfl
  have joined : ∀ {xs ys : List UInt16},
      splitAll ':' (groupsText xs) = splitAll ':' (groupsText ys) → xs = ys := by
    intro xs ys e
    have etext := congrArg (Text.joinWith ':') e
    rw [Text.joinWith_splitAll, Text.joinWith_splitAll] at etext
    exact groupsText_injective etext
  -- The first empty piece is the gap, unless nothing stands before the gap.
  by_cases hhead : head = [] <;> by_cases hhead' : head' = []
  · rw [hhead, hhead'] at hpieces ⊢
    exact ⟨rfl, joined (List.cons.inj (List.append_cancel_left hpieces)).2⟩
  · rw [hhead, pieces_nil] at hpieces
    have hcut := Text.append_cons_inj (a := []) (by simp)
      (fun hm => hhead' (nil_mem_splitAll_groupsText.1 hm)) hpieces
    exact absurd hcut.1.symm (Text.splitAll_ne_nil _ _)
  · rw [hhead', pieces_nil] at hpieces
    have hcut := Text.append_cons_inj (a := []) (by simp)
      (fun hm => hhead (nil_mem_splitAll_groupsText.1 hm)) hpieces.symm
    exact absurd hcut.1.symm (Text.splitAll_ne_nil _ _)
  · have hcut := Text.append_cons_inj (fun hm => hhead (nil_mem_splitAll_groupsText.1 hm))
      (fun hm => hhead' (nil_mem_splitAll_groupsText.1 hm)) hpieces
    exact ⟨joined hcut.1, joined hcut.2⟩

theorem gapText_ne_groupsText (head tail : List UInt16) {gs : List UInt16} (h : gs ≠ []) :
    gapText head tail ≠ groupsText gs := by
  intro e
  have hmem : [] ∈ splitAll ':' (groupsText gs) := by
    rw [← e, splitAll_gapText]
    simp
  exact h (nil_mem_splitAll_groupsText.1 hmem)

/-! ## Runs of zeros -/

/-- The groups of a run are all zero, and there are as many as it says. -/
def IsZeroRun (gs : List UInt16) (run : Run) : Prop :=
  (gs.drop run.start).take run.length = List.replicate run.length 0

theorem isZeroRun_of_length_eq_zero {gs : List UInt16} {run : Run} (h : run.length = 0) :
    IsZeroRun gs run := by simp [IsZeroRun, h]

/-- A run grows by a zero right behind it. -/
theorem IsZeroRun.extend {gs : List UInt16} {run : Run} (h : IsZeroRun gs run)
    (hnext : gs[run.start + run.length]? = some 0) :
    IsZeroRun gs ⟨run.start, run.length + 1⟩ := by
  unfold IsZeroRun at h ⊢
  simp only [List.take_add_one, h, List.getElem?_drop, hnext, Option.toList_some]
  exact (List.replicate_succ').symm

theorem IsZeroRun.eq_append {gs : List UInt16} {run : Run} (h : IsZeroRun gs run) :
    gs = gs.take run.start ++ List.replicate run.length 0 ++ gs.drop (run.start + run.length) := by
  have hdrop : gs.drop (run.start + run.length) = (gs.drop run.start).drop run.length := by
    rw [List.drop_drop]
  rw [← h, hdrop, List.append_assoc, List.take_append_drop, List.take_append_drop]

/-- Both runs that the search carries along are runs of zeros, and the current one ends where the
search stands. -/
theorem isZeroRun_longestRun {gs rest : List UInt16} {index : Nat} {current best : Run}
    (hrest : gs.drop index = rest) (hcurrent : IsZeroRun gs current)
    (hend : current.length = 0 ∨ current.start + current.length = index)
    (hbest : IsZeroRun gs best) : IsZeroRun gs (longestRun rest index current best) := by
  induction rest generalizing index current best with
  | nil => exact hbest
  | cons g rest ih =>
      have hnext : gs.drop (index + 1) = rest := by
        rw [← List.drop_drop, hrest]
        rfl
      have hhere : gs[index]? = some g := by
        have := congrArg List.head? hrest
        simpa using this
      by_cases hg : g = 0
      · subst hg
        -- The run that ends right behind this zero.
        obtain ⟨grown, hgrown, hzero, hlength⟩ : ∃ grown : Run,
            (if current.length = 0 then (⟨index, 1⟩ : Run)
              else ⟨current.start, current.length + 1⟩) = grown ∧
            IsZeroRun gs grown ∧ grown.start + grown.length = index + 1 := by
          by_cases h0 : current.length = 0
          · refine ⟨⟨index, 1⟩, if_pos h0, ?_, rfl⟩
            have hempty : IsZeroRun gs ⟨index, 0⟩ := isZeroRun_of_length_eq_zero rfl
            exact hempty.extend hhere
          · have hstart : current.start + current.length = index := by omega
            refine ⟨_, if_neg h0, hcurrent.extend (by rw [hstart]; exact hhere), ?_⟩
            show current.start + (current.length + 1) = index + 1
            omega
        simp only [longestRun, if_true, hgrown]
        refine ih hnext hzero (.inr hlength) ?_
        split
        · exact hzero
        · exact hbest
      · simp only [longestRun, if_neg hg]
        exact ih hnext (isZeroRun_of_length_eq_zero rfl) (.inl rfl) hbest

/-! ## Version 6 -/

/-- An address is written group by group, or with one gap where two zeros at least, and only zeros, are
left out. -/
theorem text_cases_gap (ip : Ipv6) :
    ip.text = groupsText ip.groups ∨
      ∃ head zeros tail, 1 < zeros ∧ ip.groups = head ++ List.replicate zeros 0 ++ tail ∧
        ip.text = gapText head tail := by
  have hrun : IsZeroRun ip.groups (longestRun ip.groups 0 ⟨0, 0⟩ ⟨0, 0⟩) :=
    isZeroRun_longestRun rfl (isZeroRun_of_length_eq_zero rfl) (.inl rfl)
      (isZeroRun_of_length_eq_zero rfl)
  by_cases hlong : 1 < (longestRun ip.groups 0 ⟨0, 0⟩ ⟨0, 0⟩).length
  · exact .inr ⟨_, _, _, hlong, hrun.eq_append, by simp only [text, if_pos hlong]; rfl⟩
  · exact .inl (by simp only [text, if_neg hlong])

theorem text_cases (ip : Ipv6) :
    ip.text = groupsText ip.groups ∨
      ∃ head zeros tail, ip.groups = head ++ List.replicate zeros 0 ++ tail ∧
        ip.text = gapText head tail :=
  ip.text_cases_gap.imp_right fun ⟨head, zeros, tail, _, h⟩ => ⟨head, zeros, tail, h⟩

theorem groups_ne_nil (ip : Ipv6) : ip.groups ≠ [] := by
  intro h
  have hlength := ip.length_groups
  rw [h] at hlength
  simp at hlength

theorem text_injective {x y : Ipv6} (h : x.text = y.text) : x = y := by
  apply ext_groups
  rcases text_cases x with hx | ⟨head, zeros, tail, hgroups, hx⟩ <;>
    rcases text_cases y with hy | ⟨head', zeros', tail', hgroups', hy⟩
  · exact groupsText_injective (hx.symm.trans (h.trans hy))
  · exact absurd (hy.symm.trans (h.symm.trans hx)) (gapText_ne_groupsText _ _ x.groups_ne_nil)
  · exact absurd (hx.symm.trans (h.trans hy)) (gapText_ne_groupsText _ _ y.groups_ne_nil)
  · obtain ⟨rfl, rfl⟩ := gapText_injective (hx.symm.trans (h.trans hy))
    -- Eight groups leave one length for the gap.
    have hzeros : zeros = zeros' := by
      have hlength := x.length_groups
      have hlength' := y.length_groups
      rw [hgroups] at hlength
      rw [hgroups'] at hlength'
      simp only [List.length_append, List.length_replicate] at hlength hlength'
      omega
    rw [hgroups, hgroups', hzeros]

/-- Groups hold hexadecimal digits and colons only. -/
theorem notMem_groupsText {c : Char} (hdigit : Text.hexValue? c = none) (hcolon : c ≠ ':')
    (gs : List UInt16) : c ∉ groupsText gs := by
  have hhex : ∀ n, c ∉ hex n := Text.notMem_hex hdigit
  fun_induction groupsText gs with
  | case1 => simp
  | case2 g => exact hhex _
  | case3 g gs _ ih => simp [hhex, hcolon, ih]

theorem notMem_text {c : Char} (hdigit : Text.hexValue? c = none) (hcolon : c ≠ ':') (ip : Ipv6) :
    c ∉ ip.text := by
  rcases text_cases ip with h | ⟨head, _, tail, _, h⟩
  · rw [h]
    exact notMem_groupsText hdigit hcolon _
  · rw [h]
    simp [gapText, hcolon, notMem_groupsText hdigit hcolon]

theorem count_colon_groupsText (gs : List UInt16) : (groupsText gs).count ':' = gs.length - 1 := by
  have hhex : ∀ n, (hex n).count ':' = 0 := fun n => List.count_eq_zero.2 (Text.notMem_hex (by decide) n)
  fun_induction groupsText gs with
  | case1 => rfl
  | case2 g => exact hhex _
  | case3 g gs hne ih =>
      have hgs : 0 < gs.length := List.length_pos_iff.2 fun e => hne e
      rw [List.count_append, hhex, List.count_cons_self, ih, List.length_cons]
      omega

/-- Eight groups have seven colons between them, and a gap leaves no more. -/
theorem count_colon_text_le (ip : Ipv6) : ip.text.count ':' ≤ 7 := by
  rcases text_cases_gap ip with h | ⟨head, zeros, tail, hzeros, hgroups, h⟩
  · have hcount := count_colon_groupsText ip.groups
    rw [ip.length_groups] at hcount
    rw [h]
    omega
  · have hlength := ip.length_groups
    rw [hgroups] at hlength
    simp only [List.length_append, List.length_replicate] at hlength
    rw [h, gapText, List.count_append, List.count_cons_self, List.count_cons_self, count_colon_groupsText,
      count_colon_groupsText]
    omega

theorem dot_notMem_text (ip : Ipv6) : '.' ∉ ip.text := ip.notMem_text (by decide) (by decide)

theorem colon_mem_text (ip : Ipv6) : ':' ∈ ip.text := by
  rcases text_cases ip with h | ⟨_, _, _, _, h⟩
  · rw [h]
    obtain ⟨groups, hlength⟩ := ip
    match groups, hlength with
    | _ :: _ :: _, _ => simp [groupsText]
  · rw [h]
    simp [gapText]

/-! ## Mapped addresses -/

theorem dottedGroups_ofNat (x y : UInt16) :
    dottedGroups (Ipv4.ofNat (x.toNat * 0x10000 + y.toNat)) = [x, y] := by
  have hx := x.toNat_lt
  have hy := y.toNat_lt
  simp only [dottedGroups, Ipv4.ofNat, UInt8.toNat_ofNat', List.cons.injEq, and_true]
  constructor
  · apply UInt16.toNat_inj.1
    rw [UInt16.toNat_ofNat']
    omega
  · apply UInt16.toNat_inj.1
    rw [UInt16.toNat_ofNat']
    omega

theorem groups_of_mapped? {ip : Ipv6} {v4 : Ipv4} (h : ip.mapped? = some v4) :
    ip.groups = [0, 0, 0, 0, 0, 0xFFFF] ++ dottedGroups v4 := by
  unfold mapped? at h
  split at h
  · next x y hgroups =>
      simp only [Option.some.injEq] at h
      rw [hgroups, ← h, dottedGroups_ofNat]
      rfl
  · exact absurd h (by simp)

theorem mappedText_of_none {ip : Ipv6} (h : ip.mapped? = none) : ip.mappedText = ip.text := by
  simp [mappedText, h]

theorem mappedText_of_some {ip : Ipv6} {v4 : Ipv4} (h : ip.mapped? = some v4) :
    ip.mappedText = "::ffff:".toList ++ v4.text := by simp [mappedText, h]

/-- Only the text of a mapped address has a dot. -/
theorem dot_mem_mappedText {ip : Ipv6} : '.' ∈ ip.mappedText ↔ ip.mapped? ≠ none := by
  cases h : ip.mapped? with
  | none => simp [mappedText_of_none h, ip.dot_notMem_text]
  | some v4 => simp [mappedText_of_some h, v4.dot_mem_text]

theorem mappedText_injective {x y : Ipv6} (h : x.mappedText = y.mappedText) : x = y := by
  have hboth : x.mapped? ≠ none ↔ y.mapped? ≠ none := by
    rw [← dot_mem_mappedText, h, dot_mem_mappedText]
  cases hx : x.mapped? with
  | none =>
      have hy : y.mapped? = none := by simpa [hx] using hboth
      rw [mappedText_of_none hx, mappedText_of_none hy] at h
      exact text_injective h
  | some v4 =>
      obtain ⟨v4', hy⟩ : ∃ v4', y.mapped? = some v4' :=
        Option.ne_none_iff_exists'.1 (hboth.1 (by simp [hx]))
      rw [mappedText_of_some hx, mappedText_of_some hy] at h
      have hv4 : v4 = v4' := Ipv4.text_injective (List.append_cancel_left h)
      apply ext_groups
      rw [groups_of_mapped? hx, groups_of_mapped? hy, hv4]

theorem colon_mem_mappedText (ip : Ipv6) : ':' ∈ ip.mappedText := by
  unfold mappedText
  split
  · simp
  · exact ip.colon_mem_text

end Ipv6

/-! ## Both versions -/

/-- **No two addresses are written alike**: the text form tells every address from every other. -/
theorem IpAddr.text_injective {x y : IpAddr} (h : x.text = y.text) : x = y := by
  cases x with
  | v4 ip =>
      cases y with
      | v4 ip' => rw [Ipv4.text_injective (show ip.text = ip'.text from h)]
      | v6 ip' =>
          have hcolon : ':' ∈ ip.text := (show ip.text = ip'.mappedText from h) ▸
            ip'.colon_mem_mappedText
          exact absurd hcolon ip.colon_notMem_text
  | v6 ip =>
      cases y with
      | v4 ip' =>
          have hcolon : ':' ∈ ip'.text := (show ip.mappedText = ip'.text from h) ▸
            ip.colon_mem_mappedText
          exact absurd hcolon ip'.colon_notMem_text
      | v6 ip' => rw [Ipv6.mappedText_injective (show ip.mappedText = ip'.mappedText from h)]

theorem IpAddr.text_ne_nil (ip : IpAddr) : ip.text ≠ [] := by
  cases ip with
  | v4 ip => exact List.ne_nil_of_mem ip.dot_mem_text
  | v6 ip => exact List.ne_nil_of_mem ip.colon_mem_mappedText

end Switchyard.Net
