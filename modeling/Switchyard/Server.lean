/-
How serving clients fails to begin.
-/
namespace Switchyard

/-- Why no clients are served. -/
inductive ServerError where
  /-- Nothing was said about how requests are answered. -/
  | noHandler
  /-- The address for clients cannot be used. -/
  | bind (address : String)
  /-- The address of the side channel cannot be used. -/
  | bindAdmin (address : String)
deriving DecidableEq, Repr

def ServerError.message : ServerError → String
  | .noHandler => "handler must be set via with_handler()"
  | .bind address => "Failed to bind " ++ address
  | .bindAdmin address => "Failed to bind admin server on " ++ address

end Switchyard
