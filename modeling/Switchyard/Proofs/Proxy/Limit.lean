/-
Which bodies are refused, and what the others are read to.

A body is too large if its declared length is, or if some of its chunks in a row are before the stream
fails (`Body.IsTooLarge`).  Any other body is read to the end of its stream, or until the stream fails.
`Proxy.reads_within_limit` says so of whatever is answered, and that the buffer never holds more than the
limit; how the bytes are cut into chunks makes no difference to it.
-/
import Mathlib.Algebra.Group.Nat.Defs
import Switchyard.Proofs.Proxy.Outgoing

namespace Switchyard

namespace Body

/-! ## The declared length -/

/-- The text is a number of 64 bits, with or without a plus sign before its digits. -/
def IsLength (text : String) (n : Nat) : Prop :=
  ∃ digits : List Char, (text.toList = digits ∨ text.toList = '+' :: digits) ∧ digits ≠ [] ∧
    (∀ c ∈ digits, c.isDigit = true) ∧ Nat.ofDigitChars 10 digits 0 = n ∧ n < UInt64.size

/-- The first length among the fields is that number. -/
def Declares (headers : Http.Headers) (n : Nat) : Prop :=
  ∃ value, (headers.values "content-length").head? = some value ∧ IsLength value n

theorem readLength_of_plus (digits : List Char) :
    readLength ('+' :: digits) =
      if digits.all Char.isDigit then (Text.readNat 10 digits).filter (· < UInt64.size) else none := rfl

theorem readLength_of_ne_plus {digits : List Char} (h : ∀ rest, digits ≠ '+' :: rest) :
    readLength digits =
      if digits.all Char.isDigit then (Text.readNat 10 digits).filter (· < UInt64.size) else none := by
  rw [readLength]
  exact h

theorem readLength_eq_some_iff {text : String} {n : Nat} :
    readLength text.toList = some n ↔ IsLength text n := by
  -- once the sign is off, what is left is read as a decimal number
  have hread : ∀ digits : List Char,
      (if digits.all Char.isDigit then (Text.readNat 10 digits).filter (· < UInt64.size) else none) =
        some n ↔ digits ≠ [] ∧ (∀ c ∈ digits, c.isDigit = true) ∧
          Nat.ofDigitChars 10 digits 0 = n ∧ n < UInt64.size := by
    intro digits
    rw [Option.ite_none_right_eq_some, Option.filter_eq_some_iff, Text.readNat_ten_eq_some_iff,
      List.all_eq_true, decide_eq_true_eq]
    constructor
    · rintro ⟨-, ⟨hne, hdigits, hvalue⟩, hn⟩
      exact ⟨hne, hdigits, hvalue, hn⟩
    · rintro ⟨hne, hdigits, hvalue, hn⟩
      exact ⟨hdigits, ⟨hne, hdigits, hvalue⟩, hn⟩
  rw [IsLength]
  by_cases hsign : ∃ rest, text.toList = '+' :: rest
  · obtain ⟨rest, hrest⟩ := hsign
    rw [hrest, readLength_of_plus, hread]
    constructor
    · exact fun h => ⟨rest, Or.inr rfl, h⟩
    · rintro ⟨digits, rfl | hdigits, h⟩
      · -- the sign itself is no digit
        have hplus : ('+').isDigit = true := h.2.1 '+' List.mem_cons_self
        exact absurd hplus (by decide)
      · cases hdigits
        exact h
  · have hnosign : ∀ rest, text.toList ≠ '+' :: rest := fun rest hrest => hsign ⟨rest, hrest⟩
    rw [readLength_of_ne_plus hnosign, hread]
    constructor
    · exact fun h => ⟨_, Or.inl rfl, h⟩
    · rintro ⟨digits, rfl | hdigits, h⟩
      · exact h
      · exact absurd hdigits (hnosign digits)

/-- A length reads as text. -/
theorem IsLength.isPlainValue {text : String} {n : Nat} (h : IsLength text n) :
    Http.isPlainValue text = true := by
  obtain ⟨digits, htext, -, hdigits, -⟩ := h
  have hplain : ∀ c : Char, c.isDigit = true ∨ c = '+' →
      ((0x20 ≤ c.toNat && c.toNat < 0x7F) || c == '\t') = true := by
    rintro c (hdigit | rfl)
    · obtain ⟨hlow, hhigh⟩ := Char.isDigit_iff_toNat.1 hdigit
      have hzero : '0'.toNat = 48 := rfl
      have hnine : '9'.toNat = 57 := rfl
      simp only [Bool.or_eq_true, Bool.and_eq_true, decide_eq_true_eq]
      omega
    · rfl
  rw [Http.isPlainValue, List.all_eq_true]
  intro c hc
  rcases htext with htext | htext
  · rw [htext] at hc
    exact hplain c (Or.inl (hdigits c hc))
  · rw [htext] at hc
    rcases List.mem_cons.1 hc with rfl | hc
    · exact hplain _ (Or.inr rfl)
    · exact hplain c (Or.inl (hdigits c hc))

theorem declared_eq_some_iff {headers : Http.Headers} {n : Nat} :
    declared headers = some n ↔ Declares headers n := by
  simp only [declared, Http.Headers.plain?, Http.Headers.get?, Option.bind_eq_some_iff,
    Option.filter_eq_some_iff, readLength_eq_some_iff]
  constructor
  · rintro ⟨value, ⟨hvalue, -⟩, hlength⟩
    exact ⟨value, hvalue, hlength⟩
  · rintro ⟨value, hvalue, hlength⟩
    exact ⟨value, ⟨hvalue, hlength.isPlainValue⟩, hlength⟩

/-! ## Reading the chunks -/

/-- The pieces that a stream brings before it fails. -/
def pieces : List Http.Chunk → List ByteArray
  | [] => []
  | .bytes piece :: rest => piece :: pieces rest
  | .failure _ :: _ => []

/-- Why a stream fails, if it does. -/
def failure? : List Http.Chunk → Option String
  | [] => none
  | .bytes _ :: rest => failure? rest
  | .failure cause :: _ => some cause

theorem append_join_nil (data : ByteArray) : data ++ join [] = data := ByteArray.append_empty

theorem join_append (xs ys : List ByteArray) : join (xs ++ ys) = join xs ++ join ys := by
  rw [join, List.foldl_append, foldl_append]
  rfl

/-- No pieces in a row from the start are longer than all of them. -/
theorem exists_overrun_iff {all : List ByteArray} {limit : Nat} :
    (∃ start, start <+: all ∧ limit < (join start).size) ↔ limit < (join all).size := by
  constructor
  · rintro ⟨start, ⟨rest, rfl⟩, hover⟩
    rw [join_append, ByteArray.size_append]
    omega
  · exact fun hover => ⟨all, List.prefix_rfl, hover⟩

/-- A declared length, or some pieces in a row from the start, are longer than the limit. -/
def IsTooLarge (headers : Http.Headers) (chunks : List Http.Chunk) (limit : Nat) : Prop :=
  (∃ n, Declares headers n ∧ limit < n) ∨ ∃ start, start <+: pieces chunks ∧ limit < (join start).size

section Collect

variable {limit : Nat} {chunks : List Http.Chunk} {data : ByteArray}

theorem collect_of_overrun (hdata : data.size ≤ limit) {start : List ByteArray}
    (hstart : start <+: pieces chunks) (hover : limit < (data ++ join start).size) :
    collect limit chunks data = .tooLarge := by
  -- an overrun lies ahead, since there is none yet
  induction chunks generalizing data start with
  | nil =>
    rw [pieces, List.prefix_nil] at hstart
    rw [hstart, append_join_nil] at hover
    exact absurd hover (Nat.not_lt.2 hdata)
  | cons chunk chunks ih =>
    cases start with
    | nil =>
      rw [append_join_nil] at hover
      exact absurd hover (Nat.not_lt.2 hdata)
    | cons piece start =>
      cases chunk with
      | failure cause => exact absurd hstart (by simp [pieces])
      | bytes first =>
        rw [pieces, List.cons_prefix_cons] at hstart
        obtain ⟨rfl, hrest⟩ := hstart
        rw [collect_bytes]
        split
        · rfl
        · rename_i hfits
          rw [join_cons, ← ByteArray.append_assoc] at hover
          rw [← ByteArray.size_append] at hfits
          exact ih (Nat.not_lt.1 hfits) hrest hover

theorem collect_of_fits
    (hfits : ∀ start, start <+: pieces chunks → (data ++ join start).size ≤ limit) :
    collect limit chunks data =
      match failure? chunks with
      | none => .complete (data ++ join (pieces chunks))
      | some cause => .broken (streamFailure cause) := by
  induction chunks generalizing data with
  | nil =>
    rw [collect_nil, failure?, pieces, append_join_nil]
  | cons chunk chunks ih =>
    cases chunk with
    | failure cause => rfl
    | bytes piece =>
      have hpiece : data.size + piece.size ≤ limit := by
        have hone := hfits [piece] (List.cons_prefix_cons.2 ⟨rfl, List.nil_prefix⟩)
        rwa [join_cons, ← ByteArray.append_assoc, append_join_nil, ByteArray.size_append] at hone
      have hlater : ∀ start, start <+: pieces chunks →
          ((data ++ piece) ++ join start).size ≤ limit := by
        intro start hstart
        rw [ByteArray.append_assoc, ← join_cons]
        exact hfits (piece :: start) (List.cons_prefix_cons.2 ⟨rfl, hstart⟩)
      rw [collect_bytes, if_neg (Nat.not_lt.2 hpiece), ih hlater, failure?, pieces, join_cons,
        ByteArray.append_assoc]

end Collect

/-! ## The buffer -/

/-- The bytes that the buffer holds, one time after the other. -/
def held : List Act → List ByteArray
  | [] => []
  | .hold data :: acts => data :: held acts
  | _ :: acts => held acts

/-- All that the buffer holds while chunks are collected behind what it held before. -/
def buffers (limit : Nat) (chunks : List Http.Chunk) (data : ByteArray) : List ByteArray :=
  data :: held (collectNoting limit chunks data).2

theorem buffers_nil (limit : Nat) (data : ByteArray) : buffers limit [] data = [data] := rfl

theorem buffers_failure (limit : Nat) (cause : String) (chunks : List Http.Chunk) (data : ByteArray) :
    buffers limit (.failure cause :: chunks) data = [data] := rfl

theorem buffers_bytes (limit : Nat) (piece : ByteArray) (chunks : List Http.Chunk) (data : ByteArray) :
    buffers limit (.bytes piece :: chunks) data =
      data :: if limit < data.size + piece.size then [] else buffers limit chunks (data ++ piece) := by
  rw [buffers, collectNoting]
  split <;> rfl

/-- The buffer holds what the chunks have brought so far, as long as that is within the limit. -/
theorem of_mem_buffers {limit : Nat} {chunks : List Http.Chunk} {data buffer : ByteArray}
    (hdata : data.size ≤ limit) (h : buffer ∈ buffers limit chunks data) :
    buffer.size ≤ limit ∧ ∃ start, start <+: pieces chunks ∧ buffer = data ++ join start := by
  have hfirst : data.size ≤ limit ∧ ∃ start, start <+: pieces chunks ∧ data = data ++ join start :=
    ⟨hdata, [], List.nil_prefix, (append_join_nil data).symm⟩
  induction chunks generalizing data with
  | nil =>
    rw [buffers_nil, List.mem_singleton] at h
    exact h ▸ hfirst
  | cons chunk chunks ih =>
    cases chunk with
    | failure cause =>
      rw [buffers_failure, List.mem_singleton] at h
      exact h ▸ hfirst
    | bytes piece =>
      rw [buffers_bytes] at h
      rcases List.mem_cons.1 h with rfl | hlater
      · exact hfirst
      · split at hlater
        · exact absurd hlater List.not_mem_nil
        · rename_i hfits
          have hgrown : (data ++ piece).size ≤ limit := by
            rw [ByteArray.size_append]
            omega
          obtain ⟨hsize, start, hstart, rfl⟩ := ih hgrown hlater
            ⟨hgrown, [], List.nil_prefix, (append_join_nil _).symm⟩
          refine ⟨hsize, piece :: start, ?_, ?_⟩
          · rw [pieces]
            exact List.cons_prefix_cons.2 ⟨rfl, hstart⟩
          · rw [join_cons, ByteArray.append_assoc]

/-- What is read to the end of its stream is what the buffer holds in the end. -/
theorem getLast?_buffers {limit : Nat} {chunks : List Http.Chunk} {data whole : ByteArray}
    (h : collect limit chunks data = .complete whole) :
    (buffers limit chunks data).getLast? = some whole := by
  induction chunks generalizing data with
  | nil =>
    rw [collect_nil] at h
    cases h
    rfl
  | cons chunk chunks ih =>
    cases chunk with
    | failure cause => cases h
    | bytes piece =>
      rw [collect_bytes] at h
      rw [buffers_bytes]
      split at h
      · cases h
      · rename_i hfits
        rw [if_neg hfits, List.getLast?_cons, ih h, Option.getD_some]

theorem held_readNoting (headers : Http.Headers) (chunks : List Http.Chunk) (limit : Nat) :
    held (readNoting headers chunks limit).2 =
      if (declared headers).any (limit < ·) then []
      else if maxCapacity < (declared headers).getD 0 then []
      else buffers limit chunks ByteArray.empty := by
  rw [readNoting]
  split
  · rfl
  · split <;> rfl

theorem of_mem_held_readNoting {headers : Http.Headers} {chunks : List Http.Chunk} {limit : Nat}
    {buffer : ByteArray} (h : buffer ∈ held (readNoting headers chunks limit).2) :
    buffer.size ≤ limit ∧ ∃ start, start <+: pieces chunks ∧ buffer = join start := by
  rw [held_readNoting] at h
  split at h
  · exact absurd h List.not_mem_nil
  · split at h
    · exact absurd h List.not_mem_nil
    · obtain ⟨hsize, start, hstart, hbuffer⟩ := of_mem_buffers (Nat.zero_le limit) h
      rw [ByteArray.empty_append] at hbuffer
      exact ⟨hsize, start, hstart, hbuffer⟩

theorem getLast?_held_readNoting {headers : Http.Headers} {chunks : List Http.Chunk} {limit : Nat}
    {whole : ByteArray} (h : read headers chunks limit = .complete whole) :
    (held (readNoting headers chunks limit).2).getLast? = some whole := by
  rw [read_eq] at h
  rw [held_readNoting]
  split at h
  · cases h
  · split at h
    · cases h
    · rename_i hdeclared hcapacity
      rw [if_neg hdeclared, if_neg hcapacity]
      exact getLast?_buffers h

/-! ## Outcomes -/

section Read

variable {headers : Http.Headers} {chunks : List Http.Chunk} {limit : Nat}

theorem read_of_declares {n : Nat} (h : Declares headers n) (hlarge : limit < n) :
    read headers chunks limit = .tooLarge := by
  rw [read_eq, declared_eq_some_iff.2 h, Option.any_some, decide_eq_true hlarge, if_pos rfl]

/-- A length that is not refused can be had as memory, so the chunks are read. -/
theorem read_of_forall_declares (hlimit : limit ≤ maxCapacity) (h : ∀ n, Declares headers n → n ≤ limit) :
    read headers chunks limit = collect limit chunks ByteArray.empty := by
  rw [read_eq]
  cases hdeclared : declared headers with
  | none => rfl
  | some n =>
    have hn : n ≤ limit := h n (declared_eq_some_iff.1 hdeclared)
    have hcapacity : n ≤ maxCapacity := Nat.le_trans hn hlimit
    rw [Option.any_some, decide_eq_false (Nat.not_lt.2 hn), Option.getD_some,
      if_neg (Nat.not_lt.2 hcapacity)]
    rfl

theorem read_of_isTooLarge (hlimit : limit ≤ maxCapacity) (h : IsTooLarge headers chunks limit) :
    read headers chunks limit = .tooLarge := by
  by_cases hdeclared : ∃ n, Declares headers n ∧ limit < n
  · obtain ⟨n, hn, hlarge⟩ := hdeclared
    exact read_of_declares hn hlarge
  · obtain ⟨start, hstart, hover⟩ := h.resolve_left hdeclared
    have hall : ∀ n, Declares headers n → n ≤ limit :=
      fun n hn => Nat.not_lt.1 fun hlarge => hdeclared ⟨n, hn, hlarge⟩
    rw [read_of_forall_declares hlimit hall]
    refine collect_of_overrun (Nat.zero_le limit) hstart ?_
    rwa [ByteArray.empty_append]

theorem read_of_not_isTooLarge (hlimit : limit ≤ maxCapacity) (h : ¬ IsTooLarge headers chunks limit) :
    read headers chunks limit =
      match failure? chunks with
      | none => .complete (join (pieces chunks))
      | some cause => .broken (streamFailure cause) := by
  have hall : ∀ n, Declares headers n → n ≤ limit :=
    fun n hn => Nat.not_lt.1 fun hlarge => h (Or.inl ⟨n, hn, hlarge⟩)
  have hfits : ∀ start, start <+: pieces chunks → (ByteArray.empty ++ join start).size ≤ limit := by
    intro start hstart
    rw [ByteArray.empty_append]
    exact Nat.not_lt.1 fun hover => h (Or.inr ⟨start, hstart, hover⟩)
  rw [read_of_forall_declares hlimit hall, collect_of_fits hfits, ByteArray.empty_append]

end Read

end Body

namespace Proxy

/-! ## Answers -/

/-- What a body is read to, or how it is refused. -/
def readBody (headers : Http.Headers) (chunks : List Http.Chunk) (limit : Nat) :
    Except Refusal ByteArray :=
  match Body.read headers chunks limit with
  | .complete body => .ok body
  | .tooLarge => .error (.error (.payloadTooLarge limit))
  | .broken message => .error (.error (.invalidRequest ("failed to read body: " ++ message)))
  | .overflow => .error .overflow

/-- Once a request has its target, it is sent with its body or refused for it. -/
theorem outgoing_eq_readBody {p : Proxy} {e : Endpoint} {req : Http.Request} {uri : Http.Uri}
    (h : e.retarget req.uri = .ok uri) :
    p.outgoing e req = (readBody (forwarded req.headers) req.body p.maxBodyBytes).map
      fun body => ⟨req.method, uri, forwarded req.headers, body⟩ := by
  rw [outgoing, h, readBody]
  cases hread : Body.read (forwarded req.headers) req.body p.maxBodyBytes with
  | complete body => simp only [hread]; rfl
  | tooLarge => simp only [hread]; rfl
  | broken message => simp only [hread]; rfl
  | overflow => simp only [hread]; rfl

theorem read_of_readBody {headers : Http.Headers} {chunks : List Http.Chunk} {limit : Nat}
    {body : ByteArray} (h : readBody headers chunks limit = .ok body) :
    Body.read headers chunks limit = .complete body := by
  rw [readBody] at h
  cases hread : Body.read headers chunks limit <;> simp_all

section ReadBody

variable (headers : Http.Headers) (chunks : List Http.Chunk) {limit : Nat}

/-- A body is too large, or its stream fails, or it is all that the stream brings. -/
theorem readBody_cases (hlimit : limit ≤ Body.maxCapacity) :
    (Body.IsTooLarge headers chunks limit ∧
      readBody headers chunks limit = .error (.error (.payloadTooLarge limit))) ∨
    ¬ Body.IsTooLarge headers chunks limit ∧
      ((∃ cause, Body.failure? chunks = some cause ∧ readBody headers chunks limit =
        .error (.error (.invalidRequest ("failed to read body: " ++ Body.streamFailure cause)))) ∨
      (Body.failure? chunks = none ∧
        readBody headers chunks limit = .ok (Body.join (Body.pieces chunks)))) := by
  by_cases h : Body.IsTooLarge headers chunks limit
  · refine Or.inl ⟨h, ?_⟩
    rw [readBody, Body.read_of_isTooLarge hlimit h]
  · refine Or.inr ⟨h, ?_⟩
    rw [readBody, Body.read_of_not_isTooLarge hlimit h]
    cases Body.failure? chunks with
    | some cause => exact Or.inl ⟨cause, rfl, rfl⟩
    | none => exact Or.inr ⟨rfl, rfl⟩

theorem readBody_eq_payloadTooLarge_iff (hlimit : limit ≤ Body.maxCapacity) :
    readBody headers chunks limit = .error (.error (.payloadTooLarge limit)) ↔
      Body.IsTooLarge headers chunks limit := by
  rcases readBody_cases headers chunks hlimit with ⟨h, hread⟩ | ⟨h, ⟨cause, -, hread⟩ | ⟨-, hread⟩⟩
  · exact iff_of_true hread h
  · rw [hread]
    exact iff_of_false (by simp) h
  · rw [hread]
    exact iff_of_false (by simp) h

theorem readBody_eq_invalidRequest_iff (hlimit : limit ≤ Body.maxCapacity) {message : String} :
    readBody headers chunks limit = .error (.error (.invalidRequest message)) ↔
      ¬ Body.IsTooLarge headers chunks limit ∧ ∃ cause, Body.failure? chunks = some cause ∧
        message = "failed to read body: " ++ Body.streamFailure cause := by
  rcases readBody_cases headers chunks hlimit with
    ⟨h, hread⟩ | ⟨h, ⟨cause, hfailure, hread⟩ | ⟨hfailure, hread⟩⟩
  · rw [hread]
    simp [h]
  · rw [hread, hfailure]
    simp [h, eq_comm]
  · rw [hread, hfailure]
    simp

theorem readBody_eq_ok_iff (hlimit : limit ≤ Body.maxCapacity) {body : ByteArray} :
    readBody headers chunks limit = .ok body ↔
      ¬ Body.IsTooLarge headers chunks limit ∧ Body.failure? chunks = none ∧
        body = Body.join (Body.pieces chunks) := by
  rcases readBody_cases headers chunks hlimit with
    ⟨h, hread⟩ | ⟨h, ⟨cause, hfailure, hread⟩ | ⟨hfailure, hread⟩⟩
  · rw [hread]
    simp [h]
  · rw [hread, hfailure]
    simp
  · rw [hread, hfailure]
    simp [h, eq_comm]

/-- How the bytes of a stream are cut makes no difference. -/
theorem readBody_congr (hlimit : limit ≤ Body.maxCapacity) {others : List Http.Chunk}
    (hothers : Body.failure? others = none) (hchunks : Body.failure? chunks = none)
    (h : Body.join (Body.pieces others) = Body.join (Body.pieces chunks)) :
    readBody headers others limit = readBody headers chunks limit := by
  -- whether a body is too large depends on its bytes alone
  have hlarge : Body.IsTooLarge headers others limit ↔ Body.IsTooLarge headers chunks limit := by
    rw [Body.IsTooLarge, Body.IsTooLarge, Body.exists_overrun_iff, Body.exists_overrun_iff, h]
  by_cases hfits : Body.IsTooLarge headers chunks limit
  · rw [(readBody_eq_payloadTooLarge_iff headers chunks hlimit).2 hfits,
      (readBody_eq_payloadTooLarge_iff headers others hlimit).2 (hlarge.2 hfits)]
  · rw [(readBody_eq_ok_iff headers chunks hlimit).2 ⟨hfits, hchunks, rfl⟩,
      (readBody_eq_ok_iff headers others hlimit).2 ⟨mt hlarge.1 hfits, hothers, rfl⟩, h]

/-- A body that fills the limit is accepted. -/
theorem readBody_of_size_eq (hlimit : limit ≤ Body.maxCapacity) (hchunks : Body.failure? chunks = none)
    (hdeclared : ∀ n, Body.Declares headers n → n ≤ limit)
    (hsize : (Body.join (Body.pieces chunks)).size = limit) :
    readBody headers chunks limit = .ok (Body.join (Body.pieces chunks)) := by
  refine (readBody_eq_ok_iff headers chunks hlimit).2 ⟨?_, hchunks, rfl⟩
  rintro (⟨n, hn, hlarge⟩ | hover)
  · exact absurd hlarge (Nat.not_lt.2 (hdeclared n hn))
  · rw [Body.exists_overrun_iff, hsize] at hover
    exact absurd hover (Nat.lt_irrefl limit)

/-- **A body is read exactly if it is within the limit.**  It is refused as too large exactly if its
declared length, or some of its pieces in a row before the stream fails, are longer than the limit.  Any
other body is refused exactly if its stream fails, and else it is all of its pieces in a row.  So only the
bytes of a stream that does not fail matter, and not how they are cut; as many of them as the limit allows
are accepted.  The buffer never holds more, and what it holds in the end is the body. -/
theorem reads_within_limit (hlimit : limit < 2 ^ 63) :
    (readBody headers chunks limit = .error (.error (.payloadTooLarge limit)) ↔
      Body.IsTooLarge headers chunks limit) ∧
    (∀ message, readBody headers chunks limit = .error (.error (.invalidRequest message)) ↔
      ¬ Body.IsTooLarge headers chunks limit ∧ ∃ cause, Body.failure? chunks = some cause ∧
        message = "failed to read body: " ++ Body.streamFailure cause) ∧
    (∀ body, readBody headers chunks limit = .ok body ↔
      ¬ Body.IsTooLarge headers chunks limit ∧ Body.failure? chunks = none ∧
        body = Body.join (Body.pieces chunks)) ∧
    (∀ others, Body.failure? others = none → Body.failure? chunks = none →
      Body.join (Body.pieces others) = Body.join (Body.pieces chunks) →
        readBody headers others limit = readBody headers chunks limit) ∧
    (Body.failure? chunks = none → (∀ n, Body.Declares headers n → n ≤ limit) →
      (Body.join (Body.pieces chunks)).size = limit →
        readBody headers chunks limit = .ok (Body.join (Body.pieces chunks))) ∧
    (Body.readNoting headers chunks limit).1 = Body.read headers chunks limit ∧
    (∀ buffer ∈ Body.held (Body.readNoting headers chunks limit).2, buffer.size ≤ limit ∧
      ∃ start, start <+: Body.pieces chunks ∧ buffer = Body.join start) ∧
    ∀ body, readBody headers chunks limit = .ok body →
      (Body.held (Body.readNoting headers chunks limit).2).getLast? = some body := by
  have hcapacity : limit ≤ Body.maxCapacity := Nat.le_of_lt_succ hlimit
  exact ⟨readBody_eq_payloadTooLarge_iff headers chunks hcapacity,
    fun _ => readBody_eq_invalidRequest_iff headers chunks hcapacity,
    fun _ => readBody_eq_ok_iff headers chunks hcapacity,
    fun _ => readBody_congr headers chunks hcapacity,
    readBody_of_size_eq headers chunks hcapacity,
    rfl,
    fun _ => Body.of_mem_held_readNoting,
    fun _ h => Body.getLast?_held_readNoting (read_of_readBody h)⟩

end ReadBody

/-- Three bytes fill a limit of three.  A fourth one is too many, even if the stream fails behind it. -/
theorem reads_within_limit_three :
    readBody [("content-length", "+3")] [.bytes "ab".toUTF8, .bytes "c".toUTF8] 3 = .ok "abc".toUTF8 ∧
    readBody [] [.bytes "ab".toUTF8, .bytes "cd".toUTF8, .failure "reset"] 3 =
      .error (.error (.payloadTooLarge 3)) := by
  obtain ⟨-, -, -, -, hfull, -⟩ := reads_within_limit [("content-length", "+3")]
    [.bytes "ab".toUTF8, .bytes "c".toUTF8] (by decide : 3 < 2 ^ 63)
  obtain ⟨hlarge, -⟩ := reads_within_limit []
    [.bytes "ab".toUTF8, .bytes "cd".toUTF8, .failure "reset"] (by decide : 3 < 2 ^ 63)
  have hdeclared : Body.declared [("content-length", "+3")] = some 3 := by decide +kernel
  refine ⟨?_, hlarge.2 (Or.inr ⟨["ab".toUTF8, "cd".toUTF8], List.prefix_rfl, by decide +kernel⟩)⟩
  have hjoin : Body.join ["ab".toUTF8, "c".toUTF8] = "abc".toUTF8 := by decide +kernel
  rw [← hjoin]
  refine hfull rfl ?_ (by decide +kernel)
  intro n hn
  rw [← Body.declared_eq_some_iff, hdeclared] at hn
  exact (Option.some.inj hn).symm.le

end Proxy

end Switchyard
