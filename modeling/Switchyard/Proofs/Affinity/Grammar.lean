/-
How options are written.

An option has a name if it needs one: a header that of a field, and a cookie any but the empty one.
`parse_eq_ok_iff` says that reading undoes writing on these options and accepts nothing else, so the text of an
option can stand for it, in the keys of clients and in a status document.
-/
import Switchyard.Config.Read

namespace Switchyard.AffinityOption

variable {s : String} {o : AffinityOption} {e : AffinityOptionError}

/-- The option is named as one of its kind has to be. -/
def IsNamed : AffinityOption → Prop
  | header name => Http.isFieldName name = true
  | cookie name => name ≠ ""
  | sourceAddress => True

/-! ## Reading and writing -/

theorem isNamed_of_ofParts {kind name : List Char} (h : ofParts kind name = some o) :
    o.IsNamed ∧ o.text.toList = kind ++ ':' :: name := by
  unfold ofParts at h
  split at h
  · next hkind =>
      split at h
      · next hname =>
          obtain rfl := Option.some.inj h
          exact ⟨hname, by simp [text, hkind]⟩
      · cases h
  · split at h
    · next hkind =>
        split at h
        · cases h
        · next hname =>
            obtain rfl := Option.some.inj h
            exact ⟨by simpa [IsNamed] using hname, by simp [text, hkind]⟩
    · cases h

/-- What is read is an option with a name, written out. -/
theorem isNamed_of_parse (h : parse s = .ok o) : o.IsNamed ∧ o.text = s := by
  unfold parse at h
  cases hcut : Text.splitOnce ':' s.toList with
  | none =>
      by_cases hs : s = "source-address"
      · simp only [hcut, if_pos hs, Except.ok.injEq] at h
        obtain rfl := h
        exact ⟨trivial, hs.symm⟩
      · simp [hcut, hs] at h
  | some parts =>
      cases hparts : ofParts parts.1 parts.2 with
      | none => simp [hcut, hparts] at h
      | some read =>
          obtain rfl : read = o := by simpa [hcut, hparts] using h
          obtain ⟨hnamed, htext⟩ := isNamed_of_ofParts hparts
          have hlist : s.toList = parts.1 ++ ':' :: parts.2 := (Text.eq_append_of_splitOnce hcut).1
          exact ⟨hnamed, String.toList_inj.1 (htext.trans hlist.symm)⟩

/-- The first colon of an option ends its kind, so a name may hold others. -/
theorem parse_of_parts {kind name : List Char} (hkind : ':' ∉ kind) (h : ofParts kind name = some o) :
    parse (String.ofList (kind ++ ':' :: name)) = .ok o := by
  rw [parse, String.toList_ofList, Text.splitOnce_append name hkind]
  simp [h]

/-- An option with a name is read back from its text. -/
theorem parse_text (h : o.IsNamed) : parse o.text = .ok o := by
  cases o with
  | header name =>
      have hparts : ofParts "header".toList name.toList = some (header name) := by
        have hname : Http.isFieldName name = true := h
        simp [ofParts, hname]
      have htext : (header name).text = String.ofList ("header".toList ++ ':' :: name.toList) := by
        simp [text, ← String.toList_inj]
      rw [htext]
      exact parse_of_parts (by decide) hparts
  | cookie name =>
      have hparts : ofParts "cookie".toList name.toList = some (cookie name) := by
        have hname : name ≠ "" := h
        simp [ofParts, hname]
      have htext : (cookie name).text = String.ofList ("cookie".toList ++ ':' :: name.toList) := by
        simp [text, ← String.toList_inj]
      rw [htext]
      exact parse_of_parts (by decide) hparts
  | sourceAddress => rfl

/-- **Reading is the inverse of writing** on the options that have their names, and refuses all else. -/
theorem parse_eq_ok_iff : parse s = .ok o ↔ o.IsNamed ∧ o.text = s := by
  constructor
  · exact isNamed_of_parse
  · rintro ⟨hnamed, rfl⟩
    exact parse_text hnamed

/-- A text that is refused is told to whoever wrote it. -/
theorem text_of_parse_eq_error (h : parse s = .error e) : e.text = s := by
  simp only [parse] at h
  split at h
  · cases h
  · rw [← Except.error.inj h]

theorem exists_text_eq_iff : (∃ o : AffinityOption, o.IsNamed ∧ o.text = s) ↔
    s = "source-address" ∨ (∃ name, name ≠ "" ∧ s = "cookie:" ++ name) ∨
      ∃ name, Http.isFieldName name = true ∧ s = "header:" ++ name := by
  constructor
  · rintro ⟨o, hnamed, rfl⟩
    cases o with
    | header name => exact .inr (.inr ⟨name, hnamed, rfl⟩)
    | cookie name => exact .inr (.inl ⟨name, hnamed, rfl⟩)
    | sourceAddress => exact .inl rfl
  · rintro (rfl | ⟨name, hnamed, rfl⟩ | ⟨name, hnamed, rfl⟩)
    · exact ⟨sourceAddress, trivial, rfl⟩
    · exact ⟨cookie name, hnamed, rfl⟩
    · exact ⟨header name, hnamed, rfl⟩

/-! ## Configurations -/

/-- An option of a configuration is the one that its text reads as. -/
theorem affinityOption_eq_ok_iff {δ : Type} [Readable δ] {d : δ} :
    Config.affinityOption d = .ok o ↔ ∃ s, Readable.text d = .ok s ∧ parse s = .ok o := by
  rw [Config.affinityOption]
  cases Readable.text d with
  | error fault => simp [Except.bind]
  | ok s => cases hread : parse s <;> simp [Except.bind, Readable.require, Except.toOption, hread]

/-- **The grammar of options.**  A text reads as an option exactly if it is `source-address`, or `cookie:` with
some text behind it, or `header:` with the name of a field behind it.  The option is written as that text, in
whatever case the name stands, and read back from it; a text that is refused comes with the refusal.  A
configuration takes the same texts for the same options, whatever its format. -/
theorem option_grammar :
    (∀ s, (∃ o, parse s = .ok o) ↔
      s = "source-address" ∨ (∃ name, name ≠ "" ∧ s = "cookie:" ++ name) ∨
        ∃ name, Http.isFieldName name = true ∧ s = "header:" ++ name) ∧
    (∀ s o, parse s = .ok o → o.text = s) ∧
    (∀ s e, parse s = .error e → e.text = s) ∧
    (∀ o, (∃ s, parse s = .ok o) → parse o.text = .ok o) ∧
    ∀ (δ : Type) [Readable δ] (d : δ) s, Readable.text d = .ok s →
      ∀ o, Config.affinityOption d = .ok o ↔ parse s = .ok o := by
  refine ⟨?_, fun s o h => (parse_eq_ok_iff.1 h).2, fun s e h => text_of_parse_eq_error h, ?_, ?_⟩
  · intro s
    simp only [parse_eq_ok_iff]
    exact exists_text_eq_iff
  · rintro o ⟨s, h⟩
    exact parse_text (parse_eq_ok_iff.1 h).1
  · intro δ _ d s hs o
    simp [affinityOption_eq_ok_iff, hs]

/-- A header keeps its case, and the name of a cookie its colon; without a name there is no cookie. -/
theorem option_grammar_colon :
    (header "X-User").text = "header:X-User" ∧
    parse (cookie "a:b=c").text = .ok (cookie "a:b=c") ∧
    Config.affinityOption (Content.text "cookie:a:b=c") = .ok (cookie "a:b=c") ∧
    ∃ e, parse "cookie:" = .error e ∧ e.text = "cookie:" := by
  obtain ⟨hreads, htext, hrefused, hback, hdocument⟩ := option_grammar
  have hheader : parse "header:X-User" = .ok (header "X-User") := rfl
  have hcookie : parse "cookie:a:b=c" = .ok (cookie "a:b=c") := rfl
  have hempty : parse "cookie:" = .error ⟨"cookie:"⟩ := rfl
  exact ⟨htext _ _ hheader, hback _ ⟨_, hcookie⟩, (hdocument Content _ _ rfl _).2 hcookie, _, hempty,
    hrefused _ _ hempty⟩

end Switchyard.AffinityOption
