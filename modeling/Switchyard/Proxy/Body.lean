/-
Reading a request body into memory, up to a limit.

The declared length only bounds the body from above and tells how much memory to ask for; the body is
what the chunks bring.
-/
import Switchyard.Proxy.Error
import Switchyard.Text.Digits

namespace Switchyard.Body

/-! ## The declared length -/

/-- A number below 2⁶⁴; a plus sign may stand before it. -/
def readLength (cs : List Char) : Option Nat :=
  let digits := match cs with
    | '+' :: rest => rest
    | cs => cs
  if digits.all Char.isDigit then (Text.readNat 10 digits).filter (· < UInt64.size) else none

/-- The length that the first field of that name declares. -/
def declared (h : Http.Headers) : Option Nat :=
  (h.plain? "content-length").bind fun v => readLength v.toList

/-! ## Reading -/

/-- How reading ends. -/
inductive Outcome where
  | complete (data : ByteArray)
  | tooLarge
  /-- The stream failed. -/
  | broken (message : String)
  /-- More memory was asked for than can be had. -/
  | overflow

/-- The wording of a stream's failure. -/
def streamFailure (cause : String) : String := "error reading a body from connection: " ++ cause

/-- The most memory that can be asked for. -/
def maxCapacity : Nat := 0x7FFFFFFFFFFFFFFF

/-- What reading does to its buffer. -/
inductive Act where
  /-- The buffer is given room for so many bytes. -/
  | room (bytes : Nat)
  /-- The length is computed that the buffer would come to. -/
  | length (bytes : Nat)
  /-- These are the bytes that the buffer holds. -/
  | hold (data : ByteArray)

/-- Collects chunks behind what has been read, as long as the limit allows. -/
def collectNoting (limit : Nat) : List Http.Chunk → ByteArray → Outcome × List Act
  | [], data => (.complete data, [])
  | .failure cause :: _, _ => (.broken (streamFailure cause), [])
  | .bytes chunk :: rest, data =>
    let size := data.size + chunk.size
    if limit < size then (.tooLarge, [.length size])
    else
      let (outcome, acts) := collectNoting limit rest (data ++ chunk)
      (outcome, .length size :: .room size :: .hold (data ++ chunk) :: acts)

/-- Reads a body, and notes all that is done to the buffer. -/
def readNoting (h : Http.Headers) (chunks : List Http.Chunk) (limit : Nat) : Outcome × List Act :=
  let length := declared h
  if length.any (limit < ·) then (.tooLarge, [])
  else if maxCapacity < length.getD 0 then (.overflow, [.room (length.getD 0)])
  else
    let (outcome, acts) := collectNoting limit chunks ByteArray.empty
    (outcome, .room (length.getD 0) :: .hold ByteArray.empty :: acts)

/-- Reads a body. -/
def read (h : Http.Headers) (chunks : List Http.Chunk) (limit : Nat) : Outcome :=
  (readNoting h chunks limit).1

end Switchyard.Body
