import FlowBurst.Transport.Limits
import FlowBurst.Transport.Link

/-!
# Calls on a channel

One side of a connection that is shared by several tasks. Reading and writing each have a lock
that is passed on in the order in which tasks asked for it, so that whole writes never mix; reading
and writing do not wait for each other. A write holds its lock until its last byte is put in, and
shutting down takes the lock of the writers too.

A call is carried out by polling it. A poll refuses or interrupts the call as its limits say, asks
for the lock, or makes one attempt at what is to be done; `none` stands for a poll that changes
nothing. What the calls under the channel do at an attempt is the choice of a `Disposition`.
-/

namespace FlowBurst.Transport

/-- The calls under a channel or a listener that can be made to fail. Accepting, connecting, reading,
writing and ending the writing are calls of the runtime, which has rules of its own on what the
operating system answers; the other calls are made on the system itself. -/
inductive SystemCall
  | bind
  | listenerAddress
  | accept
  | connect
  | localAddress
  | peerAddress
  | setNoDelay
  | setLinger
  | read
  | write
  /-- The runtime takes it for success if the system says that there is no connection left to stop
  writing on. An error given here is one that the runtime lets through, whichever it is. -/
  | endWriting
  | endReading
  deriving DecidableEq, Repr

/-- What the calls under a channel do at an attempt: they go on, a write moving at least one and at
most `limit` bytes, or one of them fails. -/
inductive Disposition
  | proceed (limit : Nat)
  | fail (call : SystemCall) (error : OsError)
  deriving DecidableEq, Repr

/-- A result that holds unless a call is made to fail. -/
def Disposition.unlessFailing {α : Type} (d : Disposition) (a : α) : Option α :=
  match d with
  | .proceed _ => some a
  | .fail _ _ => none

/-- The directions that can be shut down. -/
inductive Direction
  | reading
  | writing
  | both
  deriving DecidableEq, Repr

/-- The locks of a channel: the tasks that asked for each, the holder first. -/
structure Locks (τ : Type) where
  readers : List τ := []
  writers : List τ := []
  deriving DecidableEq, Repr, Inhabited

/-- What a call is to do. -/
inductive Request
  | read (size : Nat)
  /-- The bytes still to be put in, of a write of `total` bytes. -/
  | write (rest : List UInt8) (total : Nat)
  | shutdown (direction : Direction)
  deriving DecidableEq, Repr

/-- What a call answers. -/
inductive Reply
  | data (bytes : List UInt8)
  | written (count : Nat)
  | done
  deriving DecidableEq, Repr

/-- A call that has been made or is about to be. -/
structure Call where
  limits : Limits
  request : Request
  started : Bool := false
  deriving DecidableEq, Repr

/-- How a call stands after a poll. -/
inductive Progress
  | pending (call : Call)
  | ready (answer : Except Failure Reply)

/-- The effect of a poll: the connection and the locks after it, the bytes that entered the outgoing
pipe, and how the call stands. -/
structure Polled (τ : Type) where
  link : Link
  locks : Locks τ
  put : List UInt8 := []
  progress : Progress

namespace Request

/-- The operation that a request fails as. -/
def operation : Request → Operation
  | read _ => .read
  | write _ _ => .write
  | shutdown _ => .shutdown

end Request

namespace Call

/-- A write of some bytes. -/
def write (limits : Limits) (bytes : List UInt8) : Call :=
  { limits, request := .write bytes bytes.length }

/-- A read of at most `size` bytes. -/
def read (limits : Limits) (size : Nat) : Call := { limits, request := .read size }

/-- A shutdown. -/
def shutdown (limits : Limits) (direction : Direction) : Call :=
  { limits, request := .shutdown direction }

end Call

namespace Locks

variable {τ : Type} [DecidableEq τ]

/-- The queue with a task at its end, unless it is in the queue. -/
def ask (queue : List τ) (who : τ) : List τ := if who ∈ queue then queue else queue ++ [who]

/-- The queue without a task. -/
def leave (queue : List τ) (who : τ) : List τ := queue.filter (· ≠ who)

/-- The locks after a task asked for the one that its request needs. -/
def acquire (locks : Locks τ) (who : τ) : Request → Locks τ
  | .read _ => { locks with readers := ask locks.readers who }
  | .write _ _ | .shutdown _ => { locks with writers := ask locks.writers who }

/-- Whether a task holds the lock that its request needs. -/
def holds (locks : Locks τ) (who : τ) : Request → Bool
  | .read _ => locks.readers.head? == some who
  | .write _ _ | .shutdown _ => locks.writers.head? == some who

/-- The locks without a task. -/
def release (locks : Locks τ) (who : τ) : Locks τ :=
  { readers := leave locks.readers who, writers := leave locks.writers who }

end Locks

namespace Call

variable {τ : Type} [DecidableEq τ]

/-- Shuts down one or both directions of a side. The end of the reading is asked of the operating
system, and it is the channel's rule that reading has ended already where the system says that there
is no connection left to stop reading from. The end of the writing is asked of the runtime, whose rule
of that kind lies behind the call: what fails here fails the shutdown. -/
def shutDown (link : Link) (side : Side) (direction : Direction) (d : Disposition) :
    Option (Except OsError Unit × Link) :=
  let endReading (link : Link) : Option (Except OsError Unit × Link) :=
    match d with
    | .fail .endReading .notConnected => some (.ok (), link)
    | .fail .endReading e => some (.error e, link)
    | _ =>
      match link.endReading side with
      | .ok link => some (.ok (), link)
      | .error .notConnected => some (.ok (), link)
      | .error e => some (.error e, link)
  match direction, d with
  | .reading, .fail .endReading _ | .reading, .proceed _ => endReading link
  | .writing, .fail .endWriting e | .both, .fail .endWriting e => some (.error e, link)
  | .writing, .proceed _ => some (.ok (), link.endWriting side)
  | .both, .fail .endReading _ | .both, .proceed _ => endReading (link.endWriting side)
  | _, .fail _ _ => none

/-- An attempt at what a call is to do, by a task that holds the lock. A write is the runtime's loop
that goes on until all bytes are in, and by its rule an interrupted write is tried again; a read is
one call of the runtime, of which an interruption is a failure like any other. -/
def attempt (side : Side) (who : τ) (d : Disposition) (call : Call) (link : Link)
    (locks : Locks τ) : Option (Polled τ) :=
  let finish (link : Link) (answer : Except OsError Reply) : Polled τ :=
    { link, locks := locks.release who
      progress := .ready (match answer with
        | .ok reply => .ok reply
        | .error e => .error (.system call.request.operation e)) }
  match call.request with
  | .read size =>
    match d with
    | .fail .read e => some (finish link (.error e))
    | .fail _ _ => none
    | .proceed _ => (link.read? side size).map fun (answer, link) => finish link (answer.map .data)
  | .write rest total =>
    match d with
    | .fail .write .interrupted => some { link, locks, progress := .pending call }
    | .fail .write e => some (finish link (.error e))
    | .fail _ _ => none
    | .proceed limit =>
      match link.write? side rest limit with
      | none => none
      | some (.error e, link) => some (finish link (.error e))
      | some (.ok n, link) =>
        let left := rest.drop n
        if left = [] then some { finish link (.ok (.written total)) with put := rest.take n }
        else some { link, locks, put := rest.take n
                    progress := .pending { call with request := .write left total } }
  | .shutdown direction =>
    (shutDown link side direction d).map fun (answer, link) =>
      finish link (answer.map fun _ => .done)

/-- Why a poll ends a call without an attempt, if it does. -/
def stopped? (m : Moment) (call : Call) : Option Cause :=
  if call.started then call.limits.interruption? m else call.limits.refusal? m

/-- A poll of a call by a task. A write of nothing is answered at once, whatever its limits. -/
def poll? (m : Moment) (side : Side) (who : τ) (d : Disposition) (call : Call) (link : Link)
    (locks : Locks τ) : Option (Polled τ) :=
  let asked := locks.acquire who call.request
  let started := { call with started := true }
  if call.request = .write [] 0 then
    d.unlessFailing { link, locks, progress := .ready (.ok (.written 0)) }
  else
    match call.stopped? m with
    | some cause =>
      d.unlessFailing { link, locks := locks.release who
                        progress := .ready (.error ⟨call.request.operation, cause⟩) }
    | none =>
      let attempted :=
        if asked.holds who call.request then attempt side who d started link asked else none
      attempted.or <|
        if started = call ∧ asked = locks then none
        else d.unlessFailing { link, locks := asked, progress := .pending started }

end Call

end FlowBurst.Transport
