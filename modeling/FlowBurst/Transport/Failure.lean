import FlowBurst.Text.Duration
import FlowBurst.Transport.OsError

/-!
# Failures of channel operations

An operation on a channel fails because its caller cancelled it, because its deadline passed, or
with an error of the operating system. Errors are sorted into categories that say what a caller may
do about them.
-/

namespace FlowBurst.Transport

/-- The operations that can fail. -/
inductive Operation
  | bind
  | accept
  | connect
  | read
  | write
  | shutdown
  | configure
  deriving DecidableEq, Repr

/-- Every operation. -/
def Operation.all : List Operation := [bind, accept, connect, read, write, shutdown, configure]

/-- The name of an operation. -/
def Operation.name : Operation → String
  | bind => "bind"
  | accept => "accept"
  | connect => "connect"
  | read => "read"
  | write => "write"
  | shutdown => "shutdown"
  | configure => "configure"

/-- The kinds of input and output errors that categories tell apart. -/
inductive IoKind
  | timedOut
  | wouldBlock
  | interrupted
  | connectionReset
  | connectionAborted
  | notConnected
  | brokenPipe
  | unexpectedEnd
  | connectionRefused
  | addressInUse
  | addressNotAvailable
  | writeZero
  | other
  deriving DecidableEq, Repr

/-- The kind of an error of the operating system. -/
def OsError.kind : OsError → IoKind
  | .interrupted => .interrupted
  | .wouldBlock => .wouldBlock
  | .brokenPipe => .brokenPipe
  | .addressInUse => .addressInUse
  | .addressNotAvailable => .addressNotAvailable
  | .connectionAborted => .connectionAborted
  | .connectionReset => .connectionReset
  | .notConnected => .notConnected
  | .timedOut => .timedOut
  | .connectionRefused => .connectionRefused
  | _ => .other

/-- An input or output error: one that the operating system numbers, or one with a text of its
own. -/
inductive IoError
  | system (error : OsError)
  | described (kind : IoKind) (text : String)
  deriving DecidableEq, Repr

/-- The kind of an input or output error. -/
def IoError.kind : IoError → IoKind
  | system e => e.kind
  | described k _ => k

/-- The text of an input or output error. -/
def IoError.text : IoError → String
  | system e => e.text
  | described _ t => t

/-- What a caller may make of a failure. -/
inductive Category
  /-- The connection is gone. -/
  | closed
  /-- The caller gave up. -/
  | cancelled
  /-- A limit of time was reached. -/
  | timeout
  /-- The operation may succeed after a pause, in milliseconds. -/
  | retryable (pause : Nat)
  /-- Trying again is of no use. -/
  | final
  deriving DecidableEq, Repr

/-- The category of a kind of error. -/
def IoKind.category : IoKind → Category
  | timedOut => .timeout
  | wouldBlock | interrupted => .retryable 5
  | connectionReset | connectionAborted | notConnected | brokenPipe | unexpectedEnd => .closed
  | connectionRefused | addressInUse | addressNotAvailable => .retryable 50
  | writeZero => .retryable 10
  | other => .final

/-- Why an operation failed. -/
inductive Cause
  | cancelled
  | deadline
  | io (error : IoError)
  deriving DecidableEq, Repr

/-- A failed operation and its cause. -/
structure Failure where
  operation : Operation
  cause : Cause
  deriving DecidableEq, Repr

namespace Failure

/-- The failure of an operation by an error of the operating system. -/
def system (operation : Operation) (e : OsError) : Failure := ⟨operation, .io (.system e)⟩

/-- The stable code of a failure. -/
def code (f : Failure) : String :=
  match f.cause with
  | .cancelled => "spark.transport.tcp.cancelled"
  | .deadline => "spark.transport.tcp.timeout"
  | .io _ => "spark.transport.tcp." ++ f.operation.name ++ "_failed"

/-- What happened, without the code. -/
def summary (f : Failure) : String :=
  match f.cause with
  | .cancelled => "tcp " ++ f.operation.name ++ " cancelled"
  | .deadline => "tcp " ++ f.operation.name ++ " timed out"
  | .io e => "tcp " ++ f.operation.name ++ ": " ++ e.text

/-- The text of a failure. -/
def message (f : Failure) : String := f.summary ++ " (" ++ f.code ++ ")"

/-- The category of a failure. -/
def category (f : Failure) : Category :=
  match f.cause with
  | .cancelled => .cancelled
  | .deadline => .timeout
  | .io e => e.kind.category

/-- The text of the underlying error, if there is one. -/
def source? (f : Failure) : Option String :=
  match f.cause with
  | .io e => some e.text
  | _ => none

/-- Whether the connection is gone. -/
def isClosed (f : Failure) : Bool := f.category == .closed

/-- Whether a limit of time was reached. -/
def isTimeout (f : Failure) : Bool := f.category == .timeout

/-- Whether the caller gave up. -/
def isCancelled (f : Failure) : Bool := f.category == .cancelled

end Failure

end FlowBurst.Transport
