/-
The life of a refresh loop.

A loop looks whether it has been told to end; if not, it waits until its next pass is due or it is told.
Where both have come it may take either first.  Times are in nanoseconds.
-/
import Switchyard.Duration

namespace Switchyard

/-- What loops are told about their end. -/
structure StopSignal where
  /-- Loops are to end. -/
  raised : Bool := false
  /-- How often loops have been told. -/
  count : Nat := 0
deriving DecidableEq, Repr

/-- Tells all loops to end. -/
def StopSignal.raise (s : StopSignal) : StopSignal := { raised := true, count := s.count + 1 }

/-- What a loop is about to do. -/
inductive LoopPhase where
  /-- To look whether it is to end. -/
  | looking
  /-- To wait for its next pass, or to be told something. -/
  | waiting
  /-- To finish its pass. -/
  | passing
  | ended
deriving DecidableEq, Repr

/-- A loop that refreshes at intervals. -/
structure RefreshLoop where
  /-- When the next pass is due. -/
  due : Nat
  /-- How often it had been told something when it last took note. -/
  seen : Nat
  phase : LoopPhase := .looking
deriving DecidableEq, Repr

namespace RefreshLoop

/-! ## Time -/

/-- How late a pass may be without moving those after it. -/
def tolerance : Nat := 5000000

/-- When the pass after one that was due at `due` and starts at `now` is due. -/
def nextDue (interval : Duration) (due now : Nat) : Nat :=
  if due + tolerance < now then now + interval.nanos else due + interval.nanos

/-- The latest time that can be represented, in seconds. -/
def lastSecond : Nat := 0x7FFFFFFFFFFFFFFF

/-- When the first pass of a loop is due, if that time can be represented. -/
def firstDue (now : Nat) (interval : Duration) : Option Nat :=
  let due := now + interval.nanos
  if due / 1000000000 ≤ lastSecond then some due else none

/-! ## Steps -/

/-- A loop at its start. -/
def fresh (due : Nat) (stop : StopSignal) : RefreshLoop := { due, seen := stop.count }

/-- Looks whether the loop is to end. -/
def look (l : RefreshLoop) (stop : StopSignal) : RefreshLoop :=
  if l.phase = .looking then { l with phase := if stop.raised then .ended else .waiting } else l

/-- Whether the next pass may start. -/
def isDue (l : RefreshLoop) (now : Nat) : Bool := l.phase = .waiting && l.due ≤ now

/-- Starts a pass. -/
def beginPass (l : RefreshLoop) (interval : Duration) (now : Nat) : RefreshLoop :=
  { l with phase := .passing, due := nextDue interval l.due now }

/-- Ends a pass. -/
def finishPass (l : RefreshLoop) : RefreshLoop := { l with phase := .looking }

/-- Whether the loop has been told something. -/
def isTold (l : RefreshLoop) (stop : StopSignal) : Bool := l.phase = .waiting && l.seen ≠ stop.count

/-- Takes note of what the loop has been told. -/
def takeNote (l : RefreshLoop) (stop : StopSignal) : RefreshLoop :=
  { l with phase := .looking, seen := stop.count }

/-- Whether the loop has come to its end. -/
def hasEnded (l : RefreshLoop) : Bool := l.phase = .ended

end RefreshLoop

end Switchyard
