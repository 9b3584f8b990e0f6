/-
What the program reports while it works.

Operations return their events as a list, in order; the outer layer prints them.
-/
namespace Switchyard

/-- How much an event matters. -/
inductive Level where
  | debug
  | info
  | warn
  | error
deriving DecidableEq, Repr

def Level.label : Level → String
  | .debug => "DEBUG"
  | .info => "INFO"
  | .warn => "WARN"
  | .error => "ERROR"

/-- A reported event. -/
structure Event where
  level : Level
  message : String
deriving DecidableEq, Repr

namespace Event

def debug (message : String) : Event := ⟨.debug, message⟩

def info (message : String) : Event := ⟨.info, message⟩

def warn (message : String) : Event := ⟨.warn, message⟩

def error (message : String) : Event := ⟨.error, message⟩

/-- The line an event is printed as. -/
def line (e : Event) : String := e.level.label ++ " " ++ e.message

end Event

end Switchyard
