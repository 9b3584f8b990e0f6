/-
Documents without their format.
-/
import Switchyard.Ieee.Double

namespace Switchyard

/-- A document, whatever it was written in.  The keys of a record are documents themselves. -/
inductive Content where
  | null
  | flag (b : Bool)
  | natural (n : Nat)
  /-- The negative integer with this absolute value. -/
  | negative (n : Nat)
  | double (x : Double)
  | text (s : String)
  | list (items : List Content)
  | record (members : List (Content × Content))

end Switchyard
