import FlowBurst.Controller.Schedule
import FlowBurst.Plan

/-!
# Serving sockets

A controller whose lines are sockets of the operating system. The world reports what arrives, and
is given errands: to accept, read, send, end the sending of a socket, wake the controller at a
time, or write a log record. Of each kind of errand at most one per socket is under way; what has
not been sent stays in the pipe of its line, so that a switch that does not read holds the
controller back.
-/

namespace FlowBurst

open FlowBurst.Controller
open FlowBurst.Transport (Address OsError)

/-- What the world reports. -/
inductive Arrival
  /-- It is time to look whether the time set for waking has come. -/
  | tick
  | connected (peer : Address)
  | acceptFailed (error : OsError)
  /-- A read gave bytes, or nothing at all at the end of the stream. -/
  | read (line : Nat) (bytes : List UInt8)
  /-- A send is done. -/
  | sent (line : Nat)
  /-- A socket failed. -/
  | broken (line : Nat)
  | interrupt
  /-- Listening for an interrupt failed. -/
  | deaf (reason : String)
  deriving Inhabited, Repr

/-- What the world is to do. -/
inductive Errand
  | accept
  | read (line : Nat)
  | send (line : Nat) (bytes : List UInt8)
  | endSending (line : Nat)
  | wake (time : Nat)
  | report (record : LogRecord)
  deriving Repr

/-- What is known of the socket of a line. -/
structure Socket where
  /-- The bytes read for which the line has had no room. -/
  unread : List UInt8 := []
  /-- Whether the stream ends behind the bytes that are unread. -/
  ended : Bool := false
  reading : Bool := false
  /-- How many bytes are being sent. -/
  sending : Nat := 0
  sendingEnded : Bool := false
  deriving Inhabited, Repr

/-- A controller at work on sockets. -/
structure Serving where
  state : State
  sockets : List Socket := []
  accepting : Bool := false
  /-- The earliest time for which waking was asked. -/
  alarm : Option Nat := none
  /-- When the controller stopped, if it has. -/
  stoppedAt : Option Nat := none
  /-- The errands not handed out yet, the latest first. -/
  errands : List Errand := []

namespace Serving

/-- How many unread bytes a pipe between a line and its socket holds. -/
def pipeSize : Nat := 1024

/-- How long the last bytes may take to leave after the controller has stopped, in milliseconds. -/
def farewell : Nat := 1000

/-- A controller that begins to serve. -/
def start (p : Plan) : Serving :=
  { state := .start p.controller (.harness p.harness) pipeSize }

/-- Hands out an errand. -/
def ask (v : Serving) (e : Errand) : Serving := { v with errands := e :: v.errands }

/-- Takes note of an event. -/
def note (v : Serving) : Event → Serving
  | .notice notice => v.ask (.report notice.record)
  | _ => v

/-- An action, if it is possible. -/
def act (v : Serving) (a : Action) : Serving :=
  match v.state.step? a with
  | some (state, events) => events.foldl note { v with state }
  | none => v

/-- A step of a task, if it can take one. A connection goes away when its driving task has ended, as
nobody calls from outside. -/
def step? (v : Serving) (who : Actor) : Option Serving :=
  (v.state.step? (.run who (.proceed pipeSize))).map fun (state, events) =>
    let after := events.foldl note { v with state }
    match who with
    | .driver i => after.act (.letGo i)
    | _ => after

/-- The controller with what is known of a socket changed. -/
def modifySocket (v : Serving) (i : Nat) (f : Socket → Socket) : Serving :=
  { v with sockets := v.sockets.modify i f }

/-! ### Arrivals -/

/-- Log records of the program itself. -/
def interrupted : LogRecord :=
  { level := .info, message := "ctrl-c received, shutting down", fields := [] }

/-- The log record on interrupts that cannot be listened for. -/
def unheard (reason : String) : LogRecord :=
  { level := .warn, message := "failed to listen for ctrl-c", fields := [("error", reason)] }

/-- Takes note of an arrival. -/
def arrive (v : Serving) : Arrival → Serving
  | .tick => { v with alarm := none }
  | .connected peer =>
    { v.act (.connect peer) with sockets := v.sockets ++ [{}], accepting := false }
  | .acceptFailed e => { v.act (.run .acceptor (.fail .accept e)) with accepting := false }
  | .read i [] => v.modifySocket i fun k => { k with reading := false, ended := true }
  | .read i bytes =>
    v.modifySocket i fun k => { k with reading := false, unread := k.unread ++ bytes }
  | .sent i =>
    let n := (v.sockets.getD i {}).sending
    (v.act (.collect i n)).modifySocket i fun k => { k with sending := 0 }
  | .broken i =>
    (v.act (.reset i)).modifySocket i fun k =>
      { k with ended := true, reading := false, sending := 0, sendingEnded := true }
  | .interrupt => (v.act .stop).ask (.report interrupted)
  | .deaf reason => v.ask (.report (unheard reason))

/-! ### Errands -/

/-- Moves bytes from a socket into its line, as many as there is room for. -/
def fill (v : Serving) (i : Nat) : Serving :=
  match v.sockets[i]?, v.state.lines[i]? with
  | some k, some l =>
    let n := min k.unread.length (l.link.room .client)
    let v :=
      if n = 0 then v
      else
        (v.act (.deliver i (k.unread.take n))).modifySocket i fun k =>
          { k with unread := k.unread.drop n }
    if k.ended && n == k.unread.length then v.act (.endSending i) else v
  | _, _ => v

/-- The errands for the socket of a line. -/
def tend (v : Serving) (i : Nat) : Serving :=
  match v.sockets[i]?, v.state.lines[i]? with
  | some k, some l =>
    let waiting := l.link.client.arrived
    let v :=
      if k.reading || k.ended || !k.unread.isEmpty || l.link.server.closed then v
      else (v.ask (.read i)).modifySocket i fun k => { k with reading := true }
    if 0 < k.sending || k.sendingEnded then v
    else if waiting ≠ [] then
      (v.ask (.send i waiting)).modifySocket i fun k => { k with sending := waiting.length }
    else if l.link.server.writingEnded then
      (v.ask (.endSending i)).modifySocket i fun k => { k with sendingEnded := true }
    else v
  | _, _ => v

/-- Asks for a connection if the accepting task waits for one. -/
def invite (v : Serving) : Serving :=
  match v.state.acceptor with
  | .accepting _ =>
    if v.accepting || !v.state.backlog.isEmpty then v
    else { v.ask .accept with accepting := true }
  | _ => v

/-- The time at which something is to be done though nothing arrives. -/
def deadline? (v : Serving) : Option Nat :=
  match v.stoppedAt with
  | some t => some (t + farewell)
  | none => v.state.nextAlarm

/-- Asks for waking, unless it was asked for an earlier time that is still to come. -/
def setAlarm (v : Serving) : Serving :=
  let asked := v.alarm.filter (v.state.now < ·)
  match v.deadline? with
  | none => v
  | some t =>
    if asked.any (· ≤ t) then v else { v.ask (.wake t) with alarm := some t }

/-- Whether a line still holds bytes for its socket. -/
def isLeaving (v : Serving) (i : Nat) : Bool :=
  match v.sockets[i]?, v.state.lines[i]? with
  | some k, some l => !k.sendingEnded && !l.link.client.arrived.isEmpty
  | _, _ => false

/-- Whether the controller has stopped and its last bytes have left, or took too long. -/
def isOver (v : Serving) : Bool :=
  match v.stoppedAt with
  | none => false
  | some t => t + farewell ≤ v.state.now || !(List.range v.sockets.length).any v.isLeaving

/-- Rounds of filling the lines and letting the tasks run, until no socket has bytes that fit. -/
def run : (fuel : Nat) → Serving → Serving
  | 0, v => v
  | fuel + 1, v =>
    let v := (List.range v.sockets.length).foldl fill v
    match Schedule.round step? state v with
    | (v, true) => run fuel v
    | (v, false) => v

/-- More rounds than are run without anything arriving. -/
def endless : Nat := 1000000000

/-- Lets the controller do all that it can at a time, and hands out the errands for the world, the
first to be done first. -/
def respond (v : Serving) (now : Nat) : Serving × List Errand :=
  let v := run endless (v.act (.elapse (now - v.state.now)))
  let stoppedAt := v.stoppedAt.or (if v.state.acceptor = .stopped then some v.state.now else none)
  let v := (List.range v.sockets.length).foldl tend { v with stoppedAt }
  let v := v.invite.setAlarm
  ({ v with errands := [] }, v.errands.reverse)

/-- Whether a failed burst stopped the controller. -/
def stoppedOnFailure (v : Serving) : Bool :=
  match v.state.handler with
  | .harness h => h.stoppedOnFailure
  | .observer _ => false

end Serving

end FlowBurst
