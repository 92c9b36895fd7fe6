import FlowBurst.Burst.Failure
import FlowBurst.Burst.Request

/-!
# One burst

A burst sends the messages of its request one after another, each only after the send before it
has returned, and stops at the first failure. `Run` is a burst in progress: it waits for the
outcome of a send or has ended with a result. `Run.play` drives a burst with any sender that keeps
a state.
-/

namespace FlowBurst.Burst

/-- The phases of a burst. -/
inductive Phase
  | discovered
  | ready
  | bursting
  | completed
  | aborted
  deriving DecidableEq, Repr, Inhabited

namespace Phase

/-- Every phase. -/
def all : List Phase := [discovered, ready, bursting, completed, aborted]

/-- The name of a phase. -/
def name : Phase → String
  | discovered => "Discovered"
  | ready => "Ready"
  | bursting => "Bursting"
  | completed => "Completed"
  | aborted => "Aborted"

/-- Whether one phase may follow another. -/
def mayBecome : Phase → Phase → Bool
  | discovered, ready => true
  | ready, bursting => true
  | bursting, completed | bursting, aborted => true
  | _, _ => false

/-- Whether no phase follows. -/
def isTerminal : Phase → Bool
  | completed | aborted => true
  | _ => false

end Phase

/-- How a burst to a switch ended. -/
structure Result (ι : Type) where
  switch : ι
  requested : UInt64
  sent : UInt64
  failedAt : Option UInt64
  cause : Option Failure
  phase : Phase
  deriving DecidableEq, Repr

namespace Result

variable {ι : Type}

/-- Whether every message was sent. -/
def isCompleted (r : Result ι) : Bool := r.phase == .completed

/-- Whether a send failed. -/
def isAborted (r : Result ι) : Bool := r.phase == .aborted

end Result

/-- A burst in progress: how many of its sends have succeeded, and the phases it has gone through,
the present one last. -/
structure Run (ι : Type) where
  switch : ι
  request : Request
  sent : UInt64
  path : List Phase
  deriving DecidableEq, Repr

namespace Run

variable {ι : Type}

/-- A burst that is about to send its first message. -/
def start (switch : ι) (request : Request) : Run ι :=
  { switch, request, sent := 0, path := [.discovered, .ready, .bursting] }

/-- Whether there is a further message to send. -/
def isSending (r : Run ι) : Bool := r.sent < r.request.count

/-- The number of the send that is to come or under way, counted from one. -/
def attempt (r : Run ι) : UInt64 := r.sent + 1

/-- The burst after a send that succeeded. -/
def succeed (r : Run ι) : Run ι := { r with sent := r.attempt }

/-- The path of a burst that has sent all its messages. -/
def completedPath (r : Run ι) : List Phase := r.path ++ [.completed]

/-- The path of a burst whose send has failed. -/
def abortedPath (r : Run ι) : List Phase := r.path ++ [.aborted]

/-- The result of a burst that has sent all its messages. -/
def complete (r : Run ι) : Result ι :=
  { switch := r.switch, requested := r.request.count, sent := r.request.count, failedAt := none,
    cause := none, phase := r.completedPath.getLastD .discovered }

/-- The result of a burst whose present send has failed. -/
def abort (r : Run ι) (cause : Failure) : Result ι :=
  { switch := r.switch, requested := r.request.count, sent := r.attempt - 1,
    failedAt := some r.attempt, cause := some cause,
    phase := r.abortedPath.getLastD .discovered }

/-- The burst after the outcome of a send: in progress, or ended. -/
def afterSend (r : Run ι) : Except Failure Unit → Run ι ⊕ Result ι
  | .ok () => .inl r.succeed
  | .error cause => .inr (r.abort cause)

/-- Sends at most `fuel` further messages with a sender that keeps a state, and gives the result. -/
def playUpTo {σ : Type} (send : σ → ι → Kind → Except Failure Unit × σ) :
    Nat → Run ι → σ → Result ι × σ
  | 0, r, s => (r.complete, s)
  | fuel + 1, r, s =>
    if r.isSending then
      match send s r.switch r.request.kind with
      | (outcome, s) =>
        match r.afterSend outcome with
        | .inl r => playUpTo send fuel r s
        | .inr result => (result, s)
    else (r.complete, s)

/-- A whole burst over a sender that keeps a state. The count bounds the number of sends. -/
def play {σ : Type} (send : σ → ι → Kind → Except Failure Unit × σ) (switch : ι)
    (request : Request) (s : σ) : Result ι × σ :=
  playUpTo send request.count.toNat (start switch request) s

end Run

end FlowBurst.Burst
