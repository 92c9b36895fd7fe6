import FlowBurst.Switch.Failure

/-!
# Failures of a send

What stopped a burst: a coarse kind, and the cause behind it.
-/

namespace FlowBurst.Burst

/-- The kind of a failed send. -/
inductive FailureKind
  | disconnected
  | timeout
  | encode
  | write
  | other
  deriving DecidableEq, Repr

/-- Every kind of failure. -/
def FailureKind.all : List FailureKind := [disconnected, timeout, encode, write, other]

/-- The name of a kind of failure. -/
def FailureKind.name : FailureKind → String
  | disconnected => "disconnected"
  | timeout => "timeout"
  | encode => "encode"
  | write => "write"
  | other => "other"

/-- The cause behind a failed send. -/
inductive FailureCause
  | switch (failure : Switch.Failure)
  | described (text : String)
  deriving DecidableEq, Repr

/-- The text of a cause. -/
def FailureCause.message : FailureCause → String
  | switch f => f.message
  | described t => t

/-- A failed send. -/
structure Failure where
  kind : FailureKind
  cause : FailureCause
  deriving DecidableEq, Repr

namespace Failure

/-- The kind of a failure on the connection with a switch: a lost connection comes before a limit
of time, and these before the layer that failed. -/
def kindOf (f : Switch.Failure) : FailureKind :=
  if f.isDisconnect then .disconnected
  else if f.isTimeout then .timeout
  else
    match f with
    | .frame _ => .encode
    | .transport _ => .write
    | _ => .other

/-- A send that failed on the connection with a switch. -/
def ofSwitch (f : Switch.Failure) : Failure := { kind := kindOf f, cause := .switch f }

/-- The text of a failed send. -/
def message (f : Failure) : String := f.kind.name ++ " failure: " ++ f.cause.message

/-- Whether the connection was lost. -/
def isDisconnect (f : Failure) : Bool := f.kind == .disconnected

end Failure

end FlowBurst.Burst
