/-
What a body is read to.

A body that is read to its end is the bytes of its chunks in a row, and none of these is a failure
(`read_eq_complete`).  It is never larger than the limit, whatever length was declared.
-/
import Switchyard.Proxy.Body

namespace Switchyard.Body

/-! ## Pieces in a row -/

/-- The bytes of some pieces in a row. -/
def join (pieces : List ByteArray) : ByteArray := pieces.foldl (· ++ ·) ByteArray.empty

theorem foldl_append (data : ByteArray) (pieces : List ByteArray) :
    pieces.foldl (· ++ ·) data = data ++ join pieces := by
  induction pieces generalizing data with
  | nil => simp [join]
  | cons piece pieces ih =>
    rw [join, List.foldl_cons, List.foldl_cons, ih, ih (ByteArray.empty ++ piece), ByteArray.append_assoc,
      ByteArray.empty_append]

theorem join_cons (piece : ByteArray) (pieces : List ByteArray) :
    join (piece :: pieces) = piece ++ join pieces := by
  rw [join, List.foldl_cons, ByteArray.empty_append, foldl_append]

/-- How many bytes some chunks bring. -/
def brought : List Http.Chunk → Nat
  | [] => 0
  | .bytes data :: rest => data.size + brought rest
  | .failure _ :: rest => brought rest

/-- No byte is lost and none is added. -/
theorem size_join (pieces : List ByteArray) : (join pieces).size = brought (pieces.map .bytes) := by
  induction pieces with
  | nil => rfl
  | cons piece pieces ih => rw [join_cons, ByteArray.size_append, ih, List.map_cons, brought]

/-- Every length that the fields declare is the given one. -/
def AllDeclare (headers : Http.Headers) (size : Nat) : Prop :=
  ∀ v ∈ headers.values "content-length", ∀ n, readLength v.toList = some n → n = size

/-! ## Reading -/

/-- What collecting comes to. -/
def collect (limit : Nat) (chunks : List Http.Chunk) (data : ByteArray) : Outcome :=
  (collectNoting limit chunks data).1

theorem collect_nil (limit : Nat) (data : ByteArray) : collect limit [] data = .complete data := rfl

theorem collect_failure (limit : Nat) (cause : String) (chunks : List Http.Chunk) (data : ByteArray) :
    collect limit (.failure cause :: chunks) data = .broken (streamFailure cause) := rfl

theorem collect_bytes (limit : Nat) (piece : ByteArray) (chunks : List Http.Chunk) (data : ByteArray) :
    collect limit (.bytes piece :: chunks) data =
      if limit < data.size + piece.size then .tooLarge else collect limit chunks (data ++ piece) := by
  rw [collect, collectNoting]
  split <;> rfl

theorem read_eq (headers : Http.Headers) (chunks : List Http.Chunk) (limit : Nat) :
    read headers chunks limit =
      if (declared headers).any (limit < ·) then .tooLarge
      else if maxCapacity < (declared headers).getD 0 then .overflow
      else collect limit chunks ByteArray.empty := by
  rw [read, readNoting]
  split
  · rfl
  · split <;> rfl

/-- What is collected is what was there before, and then the chunks. -/
theorem collect_eq_complete {limit : Nat} {chunks : List Http.Chunk} {data whole : ByteArray}
    (h : collect limit chunks data = .complete whole) (hdata : data.size ≤ limit) :
    ∃ pieces : List ByteArray, chunks = pieces.map .bytes ∧ whole = data ++ join pieces ∧
      whole.size ≤ limit := by
  induction chunks generalizing data with
  | nil =>
    rw [collect_nil] at h
    cases h
    exact ⟨[], rfl, ByteArray.append_empty.symm, hdata⟩
  | cons chunk chunks ih =>
    cases chunk with
    | failure cause => cases h
    | bytes piece =>
      rw [collect_bytes] at h
      split at h
      · cases h
      · rename_i hfits
        have hsize : (data ++ piece).size ≤ limit := by
          rw [ByteArray.size_append]
          omega
        obtain ⟨pieces, rfl, rfl, hwhole⟩ := ih h hsize
        exact ⟨piece :: pieces, rfl, by rw [join_cons, ByteArray.append_assoc], hwhole⟩

/-- A body that is read to its end is the bytes of its chunks in a row.  Neither it nor the length that
was declared goes beyond the limit. -/
theorem read_eq_complete {headers : Http.Headers} {chunks : List Http.Chunk} {limit : Nat}
    {whole : ByteArray} (h : read headers chunks limit = .complete whole) :
    ∃ pieces : List ByteArray, chunks = pieces.map .bytes ∧ whole = join pieces ∧
      whole.size ≤ limit ∧ ∀ length, declared headers = some length → length ≤ limit := by
  rw [read_eq] at h
  split at h
  · cases h
  · rename_i hdeclared
    split at h
    · cases h
    · obtain ⟨pieces, hchunks, hwhole, hsize⟩ := collect_eq_complete h (Nat.zero_le limit)
      rw [ByteArray.empty_append] at hwhole
      refine ⟨pieces, hchunks, hwhole, hsize, ?_⟩
      intro length hlength
      rw [hlength] at hdeclared
      simpa using hdeclared

end Switchyard.Body
