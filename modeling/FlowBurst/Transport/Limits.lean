import FlowBurst.Transport.Failure

/-!
# Limits of a call

A call on a channel may have a deadline and may listen to a cancellation flag. A call whose
deadline has passed, or that is cancelled, is refused when it is made: the deadline is looked at
first. A call under way is interrupted by the same two causes, and there cancellation is looked at
first. Times are in milliseconds.
-/

namespace FlowBurst.Transport

/-- What a call can see of the world outside: the time, and whether its flag is raised. -/
structure Moment where
  now : Nat
  cancelled : Bool
  deriving DecidableEq, Repr

/-- The limits of a call. -/
structure Limits where
  deadline : Option Nat := none
  /-- Whether the call listens to the flag. -/
  cancellable : Bool := true
  deriving DecidableEq, Repr, Inhabited

namespace Limits

/-- Whether the deadline has passed. -/
def expired (l : Limits) (m : Moment) : Bool :=
  match l.deadline with
  | some t => t ≤ m.now
  | none => false

/-- Whether the call is cancelled. -/
def cancelled (l : Limits) (m : Moment) : Bool := l.cancellable && m.cancelled

/-- Why a call is refused when it is made. -/
def refusal? (l : Limits) (m : Moment) : Option Cause :=
  if l.expired m then some .deadline
  else if l.cancelled m then some .cancelled
  else none

/-- Why a call under way is interrupted. -/
def interruption? (l : Limits) (m : Moment) : Option Cause :=
  if l.cancelled m then some .cancelled
  else if l.expired m then some .deadline
  else none

/-- The limits with a deadline `timeout` from now, unless there is an earlier one. -/
def within (l : Limits) (now timeout : Nat) : Limits :=
  { l with deadline := some (match l.deadline with
      | some t => min t (now + timeout)
      | none => now + timeout) }

end Limits

end FlowBurst.Transport
