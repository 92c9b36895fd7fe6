import FlowBurst.Controller.Settings
import FlowBurst.Harness
import FlowBurst.Switch.Registry
import FlowBurst.Transport.Listener

/-!
# The state of a running controller

A controller is a number of tasks that run side by side: one that accepts connections, one for
each connection that drives it through the handshake and then serves it, one for each ready switch
that tells the handler of it, and the calls that others make from outside. This module holds what
the tasks know and how far each has come; the steps that they take are in the modules beside it.

Each connection is a line, numbered in the order in which switches connected. Every task is at a
place from which its next step follows, and a task inside a call on a channel holds that call.
-/

namespace FlowBurst.Controller

open FlowBurst.OpenFlow (ErrorReport Features Frame Message)
open FlowBurst.Switch (DatapathId Handle Reference Registry Session Target)
open FlowBurst.Transport (Address Call Link Locks Moment)

/-- The tasks of a controller. -/
inductive Actor
  | acceptor
  /-- The task that drives a connection. -/
  | driver (line : Nat)
  /-- The task that tells the handler of a ready switch. -/
  | handler (line : Nat)
  /-- A call from outside. -/
  | caller (index : Nat)
  deriving DecidableEq, Repr

/-- What the next frame on a connection is expected to be. -/
inductive Awaiting
  | hello
  | features
  /-- The handshake is over. -/
  | service (switch : Reference)
  deriving DecidableEq, Repr

/-- What a driving task writes, and what it does then. -/
inductive Purpose
  | greeting
  | echo (awaiting : Awaiting)
  | rejection (version : UInt8)
  | featuresRequest
  deriving DecidableEq, Repr

/-- How far the driving task of a connection has come. -/
inductive Stage
  /-- The connection has just been accepted. -/
  | opening
  | writing (purpose : Purpose) (frame : Frame) (call : Call)
  /-- About to take a frame from the bytes at hand. -/
  | deciding (awaiting : Awaiting)
  | reading (awaiting : Awaiting) (call : Call)
  /-- The switch has reported its features. -/
  | registering (features : Features)
  /-- Closing the connection that this one replaces. -/
  | displacing (switch : Reference) (previous : Handle) (call : Call)
  | launching (switch : Reference)
  /-- Closing its own connection, after it was served or after a handshake that failed. -/
  | closing (served : Option Reference) (call : Call)
  | deregistering (switch : Reference)
  /-- Waiting for the handler to be done with the news that the switch is ready. -/
  | joining (switch : Reference) (removed : Bool)
  | notifying (switch : Reference)
  | ended
  deriving DecidableEq, Repr

/-- How far a message to a switch has come. -/
inductive Sending
  | looking (target : Target) (message : Message)
  | holding (handle : Handle) (message : Message)
  | writing (handle : Handle) (frame : Frame) (call : Call)
  deriving DecidableEq, Repr

/-- The line of the connection that a message on its way holds. -/
def Sending.channel? : Sending → Option Nat
  | looking _ _ => none
  | holding h _ | writing h _ _ => some h.channel

/-- How far the handler has come with the news that a switch is ready. -/
inductive News
  | absent
  | spawned (switch : Reference)
  /-- An observer has been told and has not returned. -/
  | observing (switch : Reference)
  | bursting (run : Burst.Run Reference)
  | sending (run : Burst.Run Reference) (sending : Sending)
  | settling (switch : Reference) (todo : Harness.Settling)
  | returned
  /-- The handler broke down. -/
  | lost
  deriving DecidableEq, Repr

/-- A connection that the controller has accepted. -/
structure Connection where
  session : Session
  locks : Locks Actor := {}
  nextXid : UInt32 := 1
  /-- The bytes read and not yet decoded. -/
  inbound : List UInt8 := []
  handshakeDeadline : Nat := 0
  stage : Stage := .opening
  news : News := .absent
  deriving DecidableEq, Repr

/-- A connection that a switch made, accepted or not. -/
structure Line where
  link : Link
  peer : Address
  connection : Option Connection := none
  deriving DecidableEq, Repr

/-- How far the accepting task has come. -/
inductive Acceptor
  | accepting (started : Bool)
  /-- Pausing after a failure. -/
  | resting (till : Nat)
  /-- Waiting for every connection to end. -/
  | joining
  | stopped
  deriving DecidableEq, Repr

/-- Who is told that switches come and go. -/
inductive Handler
  /-- Takes note of it, and breaks down over some switches. -/
  | observer (faulty : List DatapathId)
  | harness (harness : Harness)
  deriving DecidableEq, Repr

/-- How far a call from outside has come. -/
inductive Caller
  | sending (sending : Sending)
  | closing (handle : Handle) (call : Call)
  /-- The message was written, with the given transaction id. -/
  | sent (xid : UInt32)
  | failed (failure : Switch.Failure)
  | closed
  deriving DecidableEq, Repr

/-- The line of the connection that a call from outside holds. -/
def Caller.channel? : Caller → Option Nat
  | sending x => x.channel?
  | closing h _ => some h.channel
  | sent _ | failed _ | closed => none

/-- A running controller and the connections that switches made to it. -/
structure State where
  settings : Settings
  handler : Handler
  /-- How many unread bytes each direction of a connection holds. -/
  capacity : Nat
  now : Nat := 0
  /-- Whether the controller has been asked to stop. -/
  stopping : Bool := false
  acceptor : Acceptor := .accepting false
  /-- How many connections have been accepted. -/
  accepted : Nat := 0
  /-- The lines that wait to be accepted. -/
  backlog : List Nat := []
  lines : List Line := []
  registry : Registry := {}
  callers : List Caller := []

/-- What is worth a warning, or comes from the harness. -/
inductive Notice
  | acceptFailed (failure : Transport.Failure)
  | handshakeFailed (peer : Address) (failure : Switch.Failure)
  | errorInHandshake (peer : Address) (report : ErrorReport)
  /-- The session of a switch that had reported its features did not become ready. -/
  | notReady (datapath : DatapathId) (peer : Address) (failure : Switch.Failure)
  | reconnected (datapath : DatapathId) (peer previous : Address)
  | errorReported (datapath : DatapathId) (xid : UInt32) (report : ErrorReport)
  | connectionFailed (datapath : DatapathId) (peer : Address) (failure : Switch.Failure)
  | handlerLost (switch : Reference)
  | harness (notice : Harness.Notice)
  deriving DecidableEq, Repr

/-- The log record of a notice. -/
def Notice.record : Notice → LogRecord
  | acceptFailed f =>
    { level := .warn, message := "accept failed"
      fields := [("code", f.code), ("error", f.message)] }
  | handshakeFailed peer f =>
    { level := .warn, message := "openflow handshake failed"
      fields := [("peer", peer.text), ("error", f.message)] }
  | errorInHandshake peer report =>
    { level := .warn, message := "switch reported error during handshake"
      fields := [("peer", peer.text), ("err_type", toString report.type.toNat),
        ("code", toString report.code.toNat)] }
  | notReady d peer f =>
    { level := .warn, message := "connection could not enter ready state"
      fields := [("dpid", d.text), ("peer", peer.text), ("error", f.message)] }
  | reconnected d peer previous =>
    { level := .warn, message := "datapath reconnected, closing previous connection"
      fields := [("dpid", d.text), ("peer", peer.text), ("previous_peer", previous.text)] }
  | errorReported d xid report =>
    { level := .warn, message := "switch reported error"
      fields := [("dpid", d.text), ("xid", toString xid.toNat),
        ("err_type", toString report.type.toNat), ("code", toString report.code.toNat)] }
  | connectionFailed d peer f =>
    { level := .warn, message := "connection failed"
      fields := [("dpid", d.text), ("peer", peer.text), ("error", f.message)] }
  | handlerLost switch =>
    { level := .warn, message := "switch_ready handler did not complete"
      fields := [("switch", switch.text), ("error", "<panic>")] }
  | harness n => n.record

/-- What a step lets the world see. -/
inductive Event
  /-- A task put bytes on the wire of a line. -/
  | put (line : Nat) (who : Actor) (bytes : List UInt8)
  /-- A task began to write a frame on a line. -/
  | frameBegun (line : Nat) (who : Actor) (frame : Frame)
  /-- A task is done with a frame on a line: it is written unless there was a failure. -/
  | frameEnded (line : Nat) (who : Actor) (frame : Frame) (failure : Option Transport.Failure)
  | accepted (line : Nat) (number : UInt64)
  /-- The driving task of a line read bytes. -/
  | read (line : Nat) (bytes : List UInt8)
  /-- The driving task of a line took a frame off the bytes at hand. -/
  | received (line : Nat) (frame : Frame)
  | registered (handle : Handle) (previous : Option Handle)
  | deregistered (line : Nat) (switch : Reference) (removed : Bool)
  /-- The handler was told that the switch of a line is ready. -/
  | readyCalled (line : Nat) (switch : Reference)
  /-- The handler is done with the news that the switch of a line is ready. -/
  | readyReturned (line : Nat) (switch : Reference)
  /-- The handler was told that the switch of a line is gone. -/
  | disconnectedCalled (line : Nat) (switch : Reference)
  /-- The burst over a line ended. -/
  | burstEnded (line : Nat) (result : Burst.Result Reference)
  /-- The harness asked the controller to stop. -/
  | stopRequested
  | notice (notice : Notice)
  deriving DecidableEq, Repr

namespace State

/-- What a call made now can see. -/
def moment (s : State) : Moment := { now := s.now, cancelled := s.stopping }

/-- The connection of a line, if it has been accepted. -/
def connection? (s : State) (i : Nat) : Option Connection := s.lines[i]?.bind Line.connection

/-- The state with a line changed. -/
def modifyLine (s : State) (i : Nat) (f : Line → Line) : State :=
  { s with lines := s.lines.modify i f }

/-- The state with the connection of a line changed. -/
def modifyConnection (s : State) (i : Nat) (f : Connection → Connection) : State :=
  s.modifyLine i fun l => { l with connection := l.connection.map f }

/-- The state with the driving task of a line at a stage. -/
def enter (s : State) (i : Nat) (stage : Stage) : State :=
  s.modifyConnection i fun c => { c with stage }

/-- The state with the news of a line changed. -/
def tell (s : State) (i : Nat) (news : News) : State :=
  s.modifyConnection i fun c => { c with news }

/-- The address of the switch at the other end of a line. -/
def peer (s : State) (i : Nat) : Address :=
  match s.lines[i]? with
  | some l => l.peer
  | none => .unspecified 0

/-- A controller that has just begun to run. -/
def start (settings : Settings) (handler : Handler) (capacity : Nat) : State :=
  { settings, handler, capacity }

end State

end FlowBurst.Controller
