import FlowBurst.Controller.Driving
import FlowBurst.Controller.Telling

/-!
# The steps of a controller

One step of a running controller and its surroundings: a step of one of its tasks, or something
that a switch, the clock or a caller does. A run of the controller is any sequence of steps; `none`
stands for an action that is not possible. Among simulated switches and on sockets a controller takes
the same steps.
-/

namespace FlowBurst.Controller

open FlowBurst.OpenFlow (Message)
open FlowBurst.Switch (Handle Target)
open FlowBurst.Transport (Address Disposition)

/-- How long accepting pauses after a failure that does not say, in milliseconds. -/
def acceptPause : Nat := 100

/-- A call that someone makes from outside. -/
inductive Outside
  | send (target : Target) (message : Message)
  /-- Sends over a handle that was taken from the registry. -/
  | sendOver (handle : Handle) (message : Message)
  /-- Closes the connection of a handle that was taken from the registry. -/
  | close (handle : Handle)
  deriving DecidableEq, Repr

/-- What can happen next. -/
inductive Action
  | run (who : Actor) (d : Disposition)
  | elapse (milliseconds : Nat)
  /-- A switch connects. -/
  | connect (peer : Address)
  /-- A switch sends bytes. -/
  | deliver (line : Nat) (bytes : List UInt8)
  /-- A switch reads at most so many bytes. -/
  | collect (line : Nat) (size : Nat)
  /-- A switch ends its sending. -/
  | endSending (line : Nat)
  /-- A switch closes its connection. -/
  | leave (line : Nat)
  /-- A switch resets its connection. -/
  | reset (line : Nat)
  /-- A connection that nobody holds any more goes away. -/
  | letGo (line : Nat)
  | call (request : Outside)
  /-- Someone asks the controller to stop. -/
  | stop
  deriving DecidableEq, Repr

namespace State

/-- Whether the driving task of a line has ended, if it ever began. -/
def isDone (l : Line) : Bool :=
  match l.connection with
  | some c => c.stage = .ended
  | none => true

/-- The connection that waits longest is accepted. -/
def acceptFirst (s : State) : State × List Event :=
  match s.backlog with
  | [] => (s, [])
  | i :: rest =>
    let number := (s.accepted + 1).toUInt64
    let s := s.modifyLine i fun l =>
      { l with connection := some { session := { connection := number, peer := l.peer } } }
    ({ s with backlog := rest, accepted := s.accepted + 1, acceptor := .accepting false },
      [.accepted i number])

/-- The connection that waits longest is lost. -/
def loseFirst (s : State) : State :=
  match s.backlog with
  | [] => s
  | i :: rest =>
    { s.modifyLine i fun l => { l with link := l.link.close .server } with backlog := rest }

/-- The listener goes away, and with it the connections that nobody accepted. -/
def stopListening (s : State) : State :=
  let s := s.backlog.foldl
    (fun s i => s.modifyLine i fun l => { l with link := l.link.close .server }) s
  { s with backlog := [], acceptor := .stopped }

/-- The next step of the accepting task. Only a request to stop ends it; after a failure it pauses. If
there is such a request when the pause is over, the task may notice either first. The step taken is
that for the request; the other would make a call that is refused at once because of the request, and
so come to the same. -/
def accept? (s : State) (d : Disposition) : Option (State × List Event) :=
  match s.acceptor with
  | .accepting started => do
    let progress ← Transport.pollAccept? s.moment {} started (!s.backlog.isEmpty) d
    match progress with
    | .pending => return ({ s with acceptor := .accepting true }, [])
    | .accepted => return s.acceptFirst
    | .failed f lost =>
      if f.isCancelled then return ({ s with acceptor := .joining }, [])
      else
        let pause := match f.category with
          | .retryable n => n
          | _ => acceptPause
        let s := if lost then s.loseFirst else s
        return ({ s with acceptor := .resting (s.now + pause) }, [.notice (.acceptFailed f)])
  | .resting till =>
    if s.stopping then d.unlessFailing ({ s with acceptor := .joining }, [])
    else if till ≤ s.now then d.unlessFailing ({ s with acceptor := .accepting false }, [])
    else none
  | .joining => if s.lines.all isDone then d.unlessFailing (s.stopListening, []) else none
  | .stopped => none

/-- The next step of a call from outside. -/
def answer? (s : State) (k : Nat) (d : Disposition) : Option (State × List Event) := do
  let caller ← s.callers[k]?
  let put (s : State) (caller : Caller) : State := { s with callers := s.callers.set k caller }
  match caller with
  | .sending sending =>
    let (s, events, progress) ← s.send? (.caller k) d sending
    match progress with
    | .inl sending => return (put s (.sending sending), events)
    | .inr (.ok xid) => return (put s (.sent xid), events)
    | .inr (.error f) => return (put s (.failed f), events)
  | .closing h call =>
    let (s, events, progress) ← s.poll? h.channel (.caller k) d call
    match progress with
    | .pending call => return (put s (.closing h call), events)
    | .ready _ => return (put s .closed, events)
  | .sent _ | .failed _ | .closed => none

/-- The next step of a task. -/
def run? (s : State) (who : Actor) (d : Disposition) : Option (State × List Event) :=
  match who with
  | .acceptor => s.accept? d
  | .driver i => s.drive? i d
  | .handler i => s.handle? i d
  | .caller k => s.answer? k d

/-- Whether a handle was ever in the registry: its connection reported the datapath. -/
def knows (s : State) (h : Handle) : Bool :=
  match s.connection? h.channel with
  | some c => c.session.datapath == some h.datapath && c.session.connection == h.switch.connection
  | none => false

/-- Someone makes a call from outside. A handle that was taken from the registry may be used for as
long as one likes. -/
def call? (s : State) (request : Outside) : Option State :=
  let add (caller : Caller) : State := { s with callers := s.callers ++ [caller] }
  match request with
  | .send target message => some (add (.sending (.looking target message)))
  | .sendOver h message => if s.knows h then some (add (.sending (.holding h message))) else none
  | .close h => if s.knows h then some (add (.closing h (closeCall s.now))) else none

/-- Whether nobody holds a connection any more: it was closed, the driving task has ended, and no call
from outside is under way on it. Until then bytes may pass even if closing took too long. A driving
task that replaces the connection holds it only to close it, which comes to the same. -/
def isUnheld (s : State) (i : Nat) : Bool :=
  match s.connection? i with
  | some c => c.stage = .ended && c.session.state = .closed && s.callers.all (·.channel? ≠ some i)
  | none => false

/-- The effect of an action, and what the world sees of it. -/
def step? (s : State) : Action → Option (State × List Event)
  | .run who d => s.run? who d
  | .elapse n => some ({ s with now := s.now + n }, [])
  | .connect peer =>
    if s.acceptor = .stopped then none
    else
      some ({ s with lines := s.lines ++ [{ link := { capacity := s.capacity }, peer }]
                     backlog := s.backlog ++ [s.lines.length] }, [])
  | .deliver i bytes => do
    let l ← s.lines[i]?
    match ← l.link.write? .client bytes bytes.length with
    | (.ok n, link) =>
      if n = bytes.length then return (s.modifyLine i fun l => { l with link }, []) else none
    | (.error _, _) => none
  | .collect i size => do
    let l ← s.lines[i]?
    match ← l.link.read? .client size with
    | (.ok _, link) => return (s.modifyLine i fun l => { l with link }, [])
    | (.error _, _) => none
  | .endSending i =>
    some (s.modifyLine i fun l => { l with link := l.link.endWriting .client }, [])
  | .leave i => some (s.modifyLine i fun l => { l with link := l.link.close .client }, [])
  | .reset i => some (s.modifyLine i fun l => { l with link := l.link.reset }, [])
  | .letGo i =>
    if s.isUnheld i then
      some (s.modifyLine i fun l => { l with link := l.link.close .server }, [])
    else none
  | .call request => (s.call? request).map fun s => (s, [])
  | .stop => some ({ s with stopping := true }, [])

end State

end FlowBurst.Controller
