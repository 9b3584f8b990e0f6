/-
What an authority may hold.

A scan over characters other than brackets and `@` fails at the first that cannot be written, and otherwise
counts colons and takes note of escapes (`foldlM_step`).  So an authority without brackets and `@` is taken
exactly if it holds neither `%` nor anything that cannot be written (`checkAuthority_of_plain`), and one in
brackets is taken with up to eight colons (`checkAuthority_bracketed`).
-/
import Mathlib.Data.List.TakeWhile
import Switchyard.Http.Uri
import Switchyard.Proofs.Except

namespace Switchyard.Http.Uri

variable {cs inner port : List Char} {s : AuthorityScan} {c : Char}

/-! ## Scanning -/

/-- A character that can be written in a target, perhaps at the start of an escape. -/
def isWritable (c : Char) : Bool := isUriChar c || c == '%'

/-- A scan that has gone on over some characters, none of them a bracket or `@`. -/
def AuthorityScan.after (s : AuthorityScan) (cs : List Char) : AuthorityScan :=
  { s with
    colons := s.colons + cs.count ':'
    percent := s.percent || cs.contains '%'
    atEnd := s.atEnd && cs.isEmpty }

theorem AuthorityScan.after_nil (s : AuthorityScan) : s.after [] = s := by simp [after]

theorem AuthorityScan.after_cons (s : AuthorityScan) (c : Char) (cs : List Char) :
    (s.after [c]).after cs = s.after (c :: cs) := by
  have hcount : (c :: cs).count ':' = [c].count ':' + cs.count ':' := by
    rw [← List.count_append, List.singleton_append]
  simp [after, hcount, Nat.add_assoc, Bool.or_assoc]

theorem step_eq (hc : c ∉ ['[', ']', '@']) (hcolons : s.colons + [c].count ':' ≤ 8) :
    s.step c = if isWritable c then .ok (s.after [c]) else .error .invalidCharacter := by
  simp only [List.mem_cons, List.not_mem_nil, or_false, not_or] at hc
  obtain ⟨hopen, hclose, hat⟩ := hc
  rw [AuthorityScan.step]
  by_cases hcolon : c = ':'
  · subst hcolon
    have hroom : ¬ 8 ≤ s.colons := Nat.not_le.2 hcolons
    rw [if_pos rfl, if_neg hroom, if_pos (by decide)]
    simp [AuthorityScan.after]
  · rw [if_neg hcolon, if_neg hopen, if_neg hclose, if_neg hat]
    by_cases hpercent : c = '%'
    · subst hpercent
      rw [if_pos rfl, if_pos (by decide)]
      simp [AuthorityScan.after]
    · simp [isWritable, AuthorityScan.after, hcolon, hpercent, Ne.symm hpercent]

/-- Without brackets and `@`, a scan goes on as long as all characters can be written. -/
theorem foldlM_step (hcs : ∀ c ∈ cs, c ∉ ['[', ']', '@']) (hcolons : s.colons + cs.count ':' ≤ 8) :
    cs.foldlM AuthorityScan.step s =
      if cs.all isWritable then .ok (s.after cs) else .error .invalidCharacter := by
  induction cs generalizing s with
  | nil => rw [List.foldlM_nil, s.after_nil, List.all_nil, if_pos rfl]; rfl
  | cons c cs ih =>
    have hcount : (c :: cs).count ':' = [c].count ':' + cs.count ':' := by
      rw [← List.count_append, List.singleton_append]
    have hhead : s.colons + [c].count ':' ≤ 8 := by omega
    have hlater : ∀ d ∈ cs, d ∉ ['[', ']', '@'] := fun d hd => hcs d (List.mem_cons_of_mem c hd)
    have hroom : (s.after [c]).colons + cs.count ':' ≤ 8 := by
      simp only [AuthorityScan.after]
      omega
    rw [List.foldlM_cons, step_eq (hcs c List.mem_cons_self) hhead, List.all_cons]
    cases hwritable : isWritable c with
    | false => rfl
    | true =>
      rw [if_pos rfl, Bool.true_and, ← s.after_cons c cs]
      exact ih hlater hroom

theorem foldlM_step_of_isUriChar (hcs : ∀ c ∈ cs, isUriChar c = true ∧ c ∉ ['[', ']', '@'])
    (hcolons : s.colons + cs.count ':' ≤ 8) : cs.foldlM AuthorityScan.step s = .ok (s.after cs) := by
  have hwritable : cs.all isWritable = true := by
    rw [List.all_eq_true]
    intro c hc
    rw [isWritable, (hcs c hc).1, Bool.true_or]
  rw [foldlM_step (fun c hc => (hcs c hc).2) hcolons, if_pos hwritable]

/-! ## Authorities -/

/-- Nothing in the text ends an authority. -/
def FillsAuthority (cs : List Char) : Prop := ∀ c ∈ cs, c ∉ ['/', '?', '#']

/-- An authority that fills its text is checked by a scan over all of it. -/
theorem checkAuthority_eq (hne : cs ≠ []) (hfills : FillsAuthority cs) :
    checkAuthority cs = (cs.foldlM AuthorityScan.step {} >>= AuthorityScan.finish).map fun _ => cs := by
  have hwhole : cs.takeWhile (fun c => decide (c ≠ '/' ∧ c ≠ '?' ∧ c ≠ '#')) = cs := by
    rw [List.takeWhile_eq_self_iff]
    intro c hc
    simpa using hfills c hc
  have hempty : cs.isEmpty = false := by simpa using hne
  rw [checkAuthority, spanAuthority, hwhole, hempty, List.drop_length]
  cases cs.foldlM AuthorityScan.step {} with
  | error e => rfl
  | ok scan =>
    simp only [bind, Except.bind]
    cases scan.finish with
    | error e => rfl
    | ok => rfl

/-- Without brackets and `@`, and with one colon at most, what cannot be written is refused first, and then
whatever is escaped. -/
theorem checkAuthority_of_plain (hne : cs ≠ []) (hfills : FillsAuthority cs)
    (hcs : ∀ c ∈ cs, c ∉ ['[', ']', '@']) (hcolons : cs.count ':' ≤ 1) :
    checkAuthority cs =
      if cs.all isWritable then if '%' ∈ cs then .error .invalidAuthority else .ok cs
      else .error .invalidCharacter := by
  have hroom : ({} : AuthorityScan).colons + cs.count ':' ≤ 8 := by
    simp only
    omega
  rw [checkAuthority_eq hne hfills, foldlM_step hcs hroom]
  split
  · have hfinish : (({} : AuthorityScan).after cs).finish =
        if '%' ∈ cs then .error .invalidAuthority else .ok () := by
      have hone : ¬ 1 < cs.count ':' := Nat.not_lt.2 hcolons
      simp [AuthorityScan.finish, AuthorityScan.after, hone]
    simp only [bind, Except.bind, hfinish]
    split
    · rfl
    · rfl
  · rfl

/-- What stands in brackets is taken with up to eight colons, and so is what follows with one. -/
theorem checkAuthority_bracketed (hfills : FillsAuthority (inner ++ port))
    (hchars : ∀ c ∈ inner ++ port, isUriChar c = true ∧ c ∉ ['[', ']', '@'])
    (hinner : inner.count ':' ≤ 8) (hport : port.count ':' ≤ 1) :
    checkAuthority ('[' :: (inner ++ ']' :: port)) = .ok ('[' :: (inner ++ ']' :: port)) := by
  have hleft : ∀ c ∈ inner, c ∈ inner ++ port := fun c => List.mem_append_left port
  have hright : ∀ c ∈ port, c ∈ inner ++ port := fun c => List.mem_append_right inner
  have hfillsAll : FillsAuthority ('[' :: (inner ++ ']' :: port)) := by
    intro c hc
    simp only [List.mem_cons, List.mem_append] at hc
    rcases hc with rfl | hc | rfl | hc
    · decide
    · exact hfills c (hleft c hc)
    · decide
    · exact hfills c (hright c hc)
  -- the closing bracket lets the count start again
  have hscan : ('[' :: (inner ++ ']' :: port)).foldlM AuthorityScan.step {} =
      .ok (({ opened := true, closed := true } : AuthorityScan).after port) := by
    calc ('[' :: (inner ++ ']' :: port)).foldlM AuthorityScan.step {}
      _ = (inner ++ ']' :: port).foldlM AuthorityScan.step { opened := true } := rfl
      _ = (']' :: port).foldlM AuthorityScan.step (({ opened := true } : AuthorityScan).after inner) :=
        foldlM_append_of_ok (foldlM_step_of_isUriChar (fun c hc => hchars c (hleft c hc)) (by simpa using hinner))
      _ = port.foldlM AuthorityScan.step { opened := true, closed := true } := rfl
      _ = _ := foldlM_step_of_isUriChar (fun c hc => hchars c (hright c hc)) (by simp; omega)
  have hescape : '%' ∉ port := fun hc => absurd (hchars '%' (hright _ hc)).1 (by decide)
  have hfinish : (({ opened := true, closed := true } : AuthorityScan).after port).finish = .ok () := by
    have hone : ¬ 1 < port.count ':' := Nat.not_lt.2 hport
    simp [AuthorityScan.finish, AuthorityScan.after, hone, hescape]
  rw [checkAuthority_eq (List.cons_ne_nil _ _) hfillsAll, hscan]
  simp only [bind, Except.bind, hfinish]
  rfl

end Switchyard.Http.Uri
