/-
What reading a body asks of the machine.

Before the first chunk is read, room is asked for as many bytes as the fields declare, unless that is
refused as too large; and whenever a chunk is kept, the buffer must have room for it.  No machine has room
for more than `maxCapacity` bytes, and a length is a number of 64 bits.  `Proxy.reads_without_crash` says
for which limits, and for which requests, reading never asks for more.
-/
import Switchyard.Proofs.Proxy.Limit
import Switchyard.Setup

namespace Switchyard

namespace Body

/-! ## What the machine can do -/

/-- The machine can do it. -/
def Act.IsMet : Act → Prop
  | room bytes => bytes ≤ maxCapacity
  | length bytes => bytes < UInt64.size
  | hold data => data.size ≤ maxCapacity

/-- Every piece of a stream lies in memory. -/
def FitMemory (chunks : List Http.Chunk) : Prop := ∀ piece ∈ pieces chunks, piece.size ≤ maxCapacity

/-- Reading goes through to an outcome: the machine can do all that is asked of it. -/
def GoesThrough (headers : Http.Headers) (chunks : List Http.Chunk) (limit : Nat) : Prop :=
  read headers chunks limit ≠ .overflow ∧ ∀ act ∈ (readNoting headers chunks limit).2, act.IsMet

/-! ## Limits that keep the buffer small -/

section Acts

variable {headers : Http.Headers} {chunks : List Http.Chunk} {limit : Nat} {data : ByteArray}

/-- The buffer stays within the limit, so that one more piece does not make its length overflow. -/
theorem isMet_of_mem_collectNoting (hlimit : limit ≤ maxCapacity) (hchunks : FitMemory chunks)
    (hdata : data.size ≤ limit) {act : Act} (h : act ∈ (collectNoting limit chunks data).2) :
    act.IsMet := by
  induction chunks generalizing data with
  | nil => exact absurd h List.not_mem_nil
  | cons chunk chunks ih =>
    cases chunk with
    | failure cause => exact absurd h List.not_mem_nil
    | bytes piece =>
      have hpiece : piece.size ≤ maxCapacity := hchunks piece List.mem_cons_self
      have hlength : (Act.length (data.size + piece.size)).IsMet := by
        simp only [maxCapacity] at hlimit hpiece
        simp only [Act.IsMet, UInt64.size]
        omega
      rw [collectNoting] at h
      split at h
      · rw [List.mem_singleton.1 h]
        exact hlength
      · rename_i hfits
        have hsize : data.size + piece.size ≤ limit := Nat.not_lt.1 hfits
        have hgrown : (data ++ piece).size ≤ limit := by rwa [ByteArray.size_append]
        rcases List.mem_cons.1 h with rfl | h
        · exact hlength
        · rcases List.mem_cons.1 h with rfl | h
          · exact Nat.le_trans hsize hlimit
          · rcases List.mem_cons.1 h with rfl | h
            · exact Nat.le_trans hgrown hlimit
            · exact ih (fun later hlater => hchunks later (List.mem_cons_of_mem _ hlater)) hgrown h

theorem collect_ne_overflow : collect limit chunks data ≠ .overflow := by
  induction chunks generalizing data with
  | nil => simp [collect_nil]
  | cons chunk chunks ih =>
    cases chunk with
    | failure cause => simp [collect_failure]
    | bytes piece =>
      rw [collect_bytes]
      split
      · simp
      · exact ih

/-- Too much is asked for exactly when the declared length passes the limit but not the machine. -/
theorem read_eq_overflow_iff :
    read headers chunks limit = .overflow ↔ ∃ n, Declares headers n ∧ maxCapacity < n ∧ n ≤ limit := by
  simp only [← declared_eq_some_iff]
  rw [read_eq]
  cases hdeclared : declared headers with
  | none =>
    have hzero : ¬ maxCapacity < (none : Option Nat).getD 0 := Nat.not_lt_zero _
    rw [Option.any_none, if_neg Bool.false_ne_true, if_neg hzero]
    simp [collect_ne_overflow]
  | some n =>
    rw [Option.any_some, Option.getD_some]
    by_cases hlarge : limit < n
    · rw [if_pos (decide_eq_true hlarge)]
      simp [hlarge]
    · rw [if_neg (by simpa using hlarge)]
      by_cases hcapacity : maxCapacity < n
      · simpa [hcapacity] using hlarge
      · simp [hcapacity, collect_ne_overflow]

/-- A limit that is no larger than what can be had keeps every request from asking for more. -/
theorem goesThrough_of_le (hlimit : limit ≤ maxCapacity) (hchunks : FitMemory chunks) :
    GoesThrough headers chunks limit := by
  refine ⟨?_, ?_⟩
  · rw [Ne, read_eq_overflow_iff]
    rintro ⟨n, -, hcapacity, hn⟩
    omega
  · intro act hact
    rw [readNoting] at hact
    split at hact
    · exact absurd hact List.not_mem_nil
    · rename_i hdeclared
      have hlength : (declared headers).getD 0 ≤ maxCapacity := by
        cases hsome : declared headers with
        | none => exact Nat.zero_le _
        | some n =>
          rw [hsome] at hdeclared
          have hn : n ≤ limit := by simpa using hdeclared
          exact Nat.le_trans hn hlimit
      rw [if_neg (Nat.not_lt.2 hlength)] at hact
      have hempty : ByteArray.empty.size ≤ limit := Nat.zero_le limit
      rcases List.mem_cons.1 hact with rfl | hact
      · exact hlength
      · rcases List.mem_cons.1 hact with rfl | hact
        · exact Nat.zero_le maxCapacity
        · exact isMet_of_mem_collectNoting hlimit hchunks hempty hact

end Acts

/-- One byte more than can be had. -/
def beyond : Http.Headers := [("content-length", "9223372036854775808")]

theorem declares_beyond : Declares beyond (maxCapacity + 1) := by
  rw [← declared_eq_some_iff]
  decide +kernel

end Body

namespace Proxy

theorem readBody_eq_overflow_iff {headers : Http.Headers} {chunks : List Http.Chunk} {limit : Nat} :
    readBody headers chunks limit = .error .overflow ↔ Body.read headers chunks limit = .overflow := by
  rw [readBody]
  cases Body.read headers chunks limit <;> simp

/-- **When reading a body crashes.**  Reading breaks off without an answer exactly if the declared length
is within the limit, but beyond what can be had as memory.  So no request whatever asks too much of the
machine, neither for its buffer nor in its lengths, exactly if the limit itself could be had as memory. -/
theorem reads_without_crash (limit : Nat) :
    (∀ headers chunks, readBody headers chunks limit = .error .overflow ↔
      ∃ n, Body.Declares headers n ∧ Body.maxCapacity < n ∧ n ≤ limit) ∧
    ((∀ headers chunks, Body.FitMemory chunks → Body.GoesThrough headers chunks limit) ↔
      limit ≤ Body.maxCapacity) := by
  refine ⟨?_, ?_, ?_⟩
  · intro headers chunks
    rw [readBody_eq_overflow_iff, Body.read_eq_overflow_iff]
  · -- a larger limit lets a request declare one byte too many
    intro hall
    refine Nat.not_lt.1 fun hlimit => ?_
    have hempty : Body.FitMemory [] := fun _ h => absurd h List.not_mem_nil
    exact (hall Body.beyond [] hempty).1
      (Body.read_eq_overflow_iff.2 ⟨_, Body.declares_beyond, Nat.lt_succ_self _, hlimit⟩)
  · exact fun hlimit headers chunks hchunks => Body.goesThrough_of_le hlimit hchunks

/-- A configuration that allows bodies of any length. -/
def roomy : Config := { forward := { maxBodyBytes := UInt64.size - 1 } }

/-- The configuration is accepted, and three bytes that are declared as too many stop the program. -/
theorem declared_length_crashes :
    roomy.validate = .ok () ∧
    (Proxy.ofConfig roomy).outgoing { scheme := "http", authority := "a:8080" }
      { method := "POST", uri := ⟨none, [], "/upload".toList⟩, headers := Body.beyond
        body := [.bytes "abc".toUTF8] } = .error .overflow := by
  have huri : ({ scheme := "http", authority := "a:8080" } : Endpoint).retarget
      ⟨none, [], "/upload".toList⟩ = .ok ⟨some "http".toList, "a:8080".toList, "/upload".toList⟩ := rfl
  have hforwarded : forwarded Body.beyond = Body.beyond := by decide +kernel
  have hread : readBody Body.beyond [.bytes "abc".toUTF8] (Proxy.ofConfig roomy).maxBodyBytes =
      .error .overflow :=
    readBody_eq_overflow_iff.2
      (Body.read_eq_overflow_iff.2 ⟨_, Body.declares_beyond, Nat.lt_succ_self _, by decide⟩)
  refine ⟨rfl, ?_⟩
  rw [outgoing_eq_readBody huri, hforwarded, hread]
  rfl

end Proxy

end Switchyard
