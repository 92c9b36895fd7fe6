import FlowBurst.Controller.Sending

/-!
# Driving a connection

The task that drives a connection greets the switch, waits for its HELLO, asks for its features
and registers it; a connection that it replaces is closed. It then has the handler told, answers
echo requests until the connection ends, closes it, takes it out of the registry, waits for the
handler and has it told that the switch is gone, unless another connection had taken its place.

During the handshake echo requests are answered, an error from the switch ends it, and other
messages are dropped.
-/

namespace FlowBurst.Controller

open FlowBurst.OpenFlow (ErrorReport Frame Message)
open FlowBurst.Switch (Failure Handle Reference)
open FlowBurst.Transport (Call Disposition Limits)

/-- How many bytes a driving task reads at once. -/
def readChunk : Nat := 4096

/-- How long closing a connection may take, in milliseconds. -/
def closePatience : Nat := 1000

/-- The call that closes a connection. -/
def closeCall (now : Nat) : Call :=
  .shutdown { deadline := some (now + closePatience), cancellable := false } .both

/-- The limits of the reads of a driving task. -/
def Awaiting.limits (w : Awaiting) (c : Connection) : Limits :=
  match w with
  | .service _ => {}
  | .hello | .features => { deadline := some c.handshakeDeadline }

/-- What a message in the handshake is measured against. -/
def Awaiting.name : Awaiting → String
  | hello => "hello"
  | features => "features_reply"
  | service _ => "message"

/-- What a purpose leaves the driving task waiting for. -/
def Purpose.awaiting : Purpose → Awaiting
  | greeting => .hello
  | echo w => w
  | rejection _ => .hello
  | featuresRequest => .features

namespace State

/-- The driving task gives a handshake up. A limit of time that was reached is reported as that of
the handshake. -/
def failHandshake (s : State) (i : Nat) (f : Failure) : State × List Event :=
  let f := match f with
    | .transport t =>
      if t.isTimeout then .handshakeTimeout (s.peer i).text s.settings.handshakeTimeout else f
    | _ => f
  (s.enter i (.closing none (closeCall s.now)),
    if f.isDisconnect then [] else [.notice (.handshakeFailed (s.peer i) f)])

/-- The driving task stops serving a connection. -/
def endService (s : State) (i : Nat) (switch : Reference) (f : Failure) : State × List Event :=
  (s.enter i (.closing (some switch) (closeCall s.now)),
    if f.isDisconnect then [] else [.notice (.connectionFailed switch.datapath (s.peer i) f)])

/-- The driving task ends what it was at because of a failure. -/
def fail (s : State) (i : Nat) (w : Awaiting) (f : Failure) : State × List Event :=
  match w with
  | .service switch => s.endService i switch f
  | .hello | .features => s.failHandshake i f

/-- The driving task begins to write a frame. -/
def begin (s : State) (i : Nat) (purpose : Purpose) (limits : Limits) (frame : Frame) :
    State × List Event :=
  match frame.encode with
  | .ok bytes =>
    (s.enter i (.writing purpose frame (.write limits bytes)),
      [.frameBegun i (.driver i) frame])
  | .error e => s.fail i purpose.awaiting (.frame e)

/-- The driving task is done with a write. -/
def afterWrite (s : State) (i : Nat) (purpose : Purpose) (answer : Except Transport.Failure Unit) :
    State × List Event :=
  match purpose, answer with
  | .rejection version, _ => s.failHandshake i (.incompatibleVersion (s.peer i).text version)
  | purpose, .ok () => (s.enter i (.deciding purpose.awaiting), [])
  | purpose, .error f => s.fail i purpose.awaiting (.transport f)

/-- The driving task answers an echo request. -/
def answerEcho (s : State) (i : Nat) (c : Connection) (w : Awaiting) (xid : UInt32)
    (payload : List UInt8) : State × List Event :=
  let limits := match w with
    | .service _ => s.sendLimits
    | .hello | .features => w.limits c
  s.begin i (.echo w) limits { xid, message := .echoReply payload }

/-- The driving task receives a frame that does not further the handshake. -/
def receiveAside (s : State) (i : Nat) (c : Connection) (w : Awaiting) (frame : Frame) :
    State × List Event :=
  match frame.message with
  | .echoRequest payload => s.answerEcho i c w frame.xid payload
  | .error report =>
    let (s', events) := s.failHandshake i (.unexpectedMessage (s.peer i).text w.name "error")
    (s', .notice (.errorInHandshake (s.peer i) report) :: events)
  | _ => (s.enter i (.deciding w), [])

/-- The driving task receives a frame. -/
def receive (s : State) (i : Nat) (c : Connection) (w : Awaiting) (frame : Frame) :
    State × List Event :=
  match w, frame.message with
  | .hello, .hello _ =>
    if frame.version < OpenFlow.protocolVersion then
      s.begin i (.rejection frame.version) (w.limits c)
        { xid := frame.xid, message := .error (.helloIncompatible "openflow 1.3 required") }
    else
      let s := s.modifyConnection i fun c => { c with nextXid := c.nextXid + 1 }
      s.begin i .featuresRequest (w.limits c) { xid := c.nextXid, message := .featuresRequest }
  | .features, .featuresReply features => (s.enter i (.registering features), [])
  | .service _, .echoRequest payload => s.answerEcho i c w frame.xid payload
  | .service switch, .error report =>
    (s.enter i (.deciding w), [.notice (.errorReported switch.datapath frame.xid report)])
  | .service _, _ => (s.enter i (.deciding w), [])
  | _, _ => s.receiveAside i c w frame

/-- The driving task takes a frame from the bytes at hand, or turns to reading more. -/
def decide (s : State) (i : Nat) (c : Connection) (w : Awaiting) : State × List Event :=
  let (answer, rest) := Frame.decode s.settings.maxFrameLength c.inbound
  let s := s.modifyConnection i fun c => { c with inbound := rest }
  match answer with
  | .ok (some frame) =>
    let (s, events) := s.receive i c w frame
    (s, .received i frame :: events)
  | .ok none => (s.enter i (.reading w (.read (w.limits c) readChunk)), [])
  | .error e => s.fail i w (.frame e)

/-- The driving task is done with a read. -/
def afterRead (s : State) (i : Nat) (w : Awaiting)
    (answer : Except Transport.Failure Transport.Reply) : State × List Event :=
  match answer with
  | .ok (.data []) => s.fail i w .peerClosed
  | .ok (.data bytes) =>
    let s := s.modifyConnection i fun c => { c with inbound := c.inbound ++ bytes }
    (s.enter i (.deciding w), [.read i bytes])
  | .ok _ => (s.enter i (.deciding w), [])
  | .error f => s.fail i w (.transport f)

/-- The driving task registers the switch of a connection. -/
def register (s : State) (i : Nat) (c : Connection) (d : Switch.DatapathId) : State × List Event :=
  match c.session.becomeReady d with
  | .error move =>
    (s.enter i (.closing none (closeCall s.now)),
      [.notice (.notReady d (s.peer i) (.refusedMove move))])
  | .ok session =>
    let switch : Reference := ⟨d, session.connection⟩
    let handle : Handle := { switch, channel := i }
    let (previous, registry) := s.registry.register handle
    let s := { s.modifyConnection i fun c => { c with session } with registry }
    match previous with
    | none => (s.enter i (.launching switch), [.registered handle none])
    | some h =>
      (s.enter i (.displacing switch h (closeCall s.now)),
        [.registered handle (some h), .notice (.reconnected d (s.peer i) (s.peer h.channel))])

/-- The driving task is done with closing its own connection. After a handshake that failed nobody
else holds that, and it goes away. -/
def afterClose (s : State) (i : Nat) (served : Option Reference) : State :=
  let s := s.modifyConnection i fun c =>
    { c with session := (c.session.enter .closed).toOption.getD c.session }
  match served with
  | some switch => s.enter i (.deregistering switch)
  | none => (s.enter i .ended).modifyLine i fun l => { l with link := l.link.close .server }

/-- The next step of the driving task of a line. -/
def drive? (s : State) (i : Nat) (d : Disposition) : Option (State × List Event) := do
  let c ← s.connection? i
  match c.stage with
  | .opening =>
    let deadline := s.now + s.settings.handshakeTimeout
    let s := s.modifyConnection i fun c =>
      { c with handshakeDeadline := deadline, nextXid := c.nextXid + 1 }
    d.unlessFailing
      (s.begin i .greeting { deadline := some deadline } { xid := c.nextXid, message := .hello [] })
  | .writing purpose frame call =>
    let (s, events, progress) ← s.poll? i (.driver i) d call
    match progress with
    | .pending call => return (s.enter i (.writing purpose frame call), events)
    | .ready answer =>
      let ended := Event.frameEnded i (.driver i) frame (failureOf answer)
      let (s, more) := s.afterWrite i purpose (answer.map fun _ => ())
      return (s, events ++ ended :: more)
  | .deciding w => d.unlessFailing (s.decide i c w)
  | .reading w call =>
    let (s, events, progress) ← s.poll? i (.driver i) d call
    match progress with
    | .pending call => return (s.enter i (.reading w call), events)
    | .ready answer =>
      let (s, more) := s.afterRead i w answer
      return (s, events ++ more)
  | .registering features => d.unlessFailing (s.register i c ⟨features.datapathId⟩)
  | .displacing switch previous call =>
    let (s, events, progress) ← s.poll? previous.channel (.driver i) d call
    match progress with
    | .pending call => return (s.enter i (.displacing switch previous call), events)
    | .ready _ => return (s.enter i (.launching switch), events)
  | .launching switch =>
    d.unlessFailing ((s.tell i (.spawned switch)).enter i (.deciding (.service switch)), [])
  | .closing served call =>
    let (s, events, progress) ← s.poll? i (.driver i) d call
    match progress with
    | .pending call => return (s.enter i (.closing served call), events)
    | .ready _ => return (s.afterClose i served, events)
  | .deregistering switch =>
    let (removed, registry) := s.registry.deregister switch
    d.unlessFailing
      ({ s.enter i (.joining switch removed) with registry }, [.deregistered i switch removed])
  | .joining switch removed =>
    let next := s.enter i (if removed then .notifying switch else .ended)
    match c.news with
    | .returned => d.unlessFailing (next, [])
    | .lost => d.unlessFailing (next, [.notice (.handlerLost switch)])
    | _ => none
  | .notifying switch => d.unlessFailing (s.enter i .ended, [.disconnectedCalled i switch])
  | .ended => none

end State

end FlowBurst.Controller
