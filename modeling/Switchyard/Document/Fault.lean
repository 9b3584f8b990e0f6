/-
Where the reading of a document stops making sense.
-/
namespace Switchyard

/-- Why a document does not read as what is asked for. -/
inductive Fault where
  /-- The text breaks the rules of its format. -/
  | malformed
  /-- The text is well formed up to here but says something else. -/
  | mismatched
  /-- The text ends too early. -/
  | truncated
deriving DecidableEq, Repr

end Switchyard
