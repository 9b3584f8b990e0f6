/-
Requests and responses.
-/
import Switchyard.Http.Header
import Switchyard.Http.Uri

namespace Switchyard.Http

/-- Characters of a method. -/
def isMethodChar (c : Char) : Bool :=
  c.isAlphanum || c ∈ ['!', '#', '$', '%', '&', '\x27', '*', '+', '-', '.', '^', '_', '\x60', '|', '~']

/-- Whether a text is a method. -/
def isMethod (s : String) : Bool := !s.toList.isEmpty && s.toList.all isMethodChar

/-- A piece of a streamed body: bytes, or the failure that ends the stream. -/
inductive Chunk where
  | bytes (data : ByteArray)
  | failure (cause : String)

/-- A request whose body is still to be read. -/
structure Request where
  method : String
  uri : Uri
  headers : Headers
  body : List Chunk

/-- A request as it is sent on, with its whole body. -/
structure Outgoing where
  method : String
  uri : Uri
  headers : Headers
  body : ByteArray

/-- An answer. -/
structure Response where
  status : Nat
  headers : Headers := []
  body : ByteArray := ByteArray.empty

namespace Response

/-- An answer of plain text without fields. -/
def plain (status : Nat) (body : String) : Response := { status, body := body.toUTF8 }

/-- Whether the server reports an error of its own. -/
def isServerError (r : Response) : Bool := 500 ≤ r.status && r.status < 600

end Response

end Switchyard.Http
