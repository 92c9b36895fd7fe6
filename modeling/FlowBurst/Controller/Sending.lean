import FlowBurst.Controller.State

/-!
# Messages on their way to a switch

A message to a switch is sent in steps between which other tasks may act: its target is looked up
in the registry, a transaction id is taken, and the frame is written. Frames of one connection are
written under its write lock. Transaction ids count from one and wrap around; an id is used up even
if the write then fails.
-/

namespace FlowBurst.Controller

open FlowBurst.OpenFlow (Frame)
open FlowBurst.Transport (Call Disposition Limits Progress)

/-- The failure of an answer that is one. -/
def failureOf {α : Type} : Except Transport.Failure α → Option Transport.Failure
  | .ok _ => none
  | .error f => some f

namespace State

/-- A poll of a call of a task on the channel of a line. -/
def poll? (s : State) (i : Nat) (who : Actor) (d : Disposition) (call : Call) :
    Option (State × List Event × Progress) := do
  let line ← s.lines[i]?
  let c ← line.connection
  let p ← call.poll? s.moment .server who d line.link c.locks
  let s := s.modifyLine i fun l =>
    { l with link := p.link, connection := some { c with locks := p.locks } }
  return (s, if p.put = [] then [] else [.put i who p.put], p.progress)

/-- The limits of a send that starts now. -/
def sendLimits (s : State) : Limits := { deadline := s.settings.sendTimeout.map (s.now + ·) }

/-- The next step of a message that a task sends: the message is on its way, or the send has ended
with the transaction id of its frame or a failure. -/
def send? (s : State) (who : Actor) (d : Disposition) :
    Sending → Option (State × List Event × (Sending ⊕ Except Switch.Failure UInt32))
  | .looking target message =>
    d.unlessFailing <|
      match s.registry.find target with
      | .ok h => (s, [], .inl (.holding h message))
      | .error f => (s, [], .inr (.error f))
  | .holding h message => do
    let c ← s.connection? h.channel
    let frame : Frame := { xid := c.nextXid, message }
    let s := s.modifyConnection h.channel fun c => { c with nextXid := c.nextXid + 1 }
    d.unlessFailing <|
      match frame.encode with
      | .error e => (s, [], .inr (.error (.frame e)))
      | .ok bytes =>
        (s, [.frameBegun h.channel who frame],
          .inl (.writing h frame (.write s.sendLimits bytes)))
  | .writing h frame call => do
    let (s, events, progress) ← s.poll? h.channel who d call
    match progress with
    | .pending call => return (s, events, .inl (.writing h frame call))
    | .ready (.ok _) =>
      return (s, events ++ [.frameEnded h.channel who frame none], .inr (.ok frame.xid))
    | .ready (.error f) =>
      return (s, events ++ [.frameEnded h.channel who frame (some f)], .inr (.error (.transport f)))

end State

end FlowBurst.Controller
