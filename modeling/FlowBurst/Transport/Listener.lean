import FlowBurst.Transport.Address
import FlowBurst.Transport.Channel

/-!
# Listening and connecting

Binding a listener, accepting a connection and making one. An accepted or made connection is looked
up and configured before it is handed out; a failure there loses it.
-/

namespace FlowBurst.Transport

/-- The result of binding an address, of which another listener may already have taken hold. -/
def bind? (a : Address) (inUse : Bool) (d : Disposition) : Option (Except Failure Unit) :=
  let bound : Except Failure Unit :=
    if inUse then .error (.system .bind .addressInUse)
    else if !a.isLocal then .error (.system .bind .addressNotAvailable)
    else .ok ()
  match d, bound with
  | .fail .bind e, _ => some (.error (.system .bind e))
  | .fail .listenerAddress e, .ok () => some (.error (.system .bind e))
  | .proceed _, result => some result
  | _, _ => none

/-- How accepting stands after a poll. -/
inductive Accepting
  | pending
  /-- The connection at hand was accepted. -/
  | accepted
  /-- Accepting failed; `lost` says whether the connection at hand went with it. -/
  | failed (failure : Failure) (lost : Bool)
  deriving DecidableEq, Repr

/-- A poll of accepting, where `waiting` says whether there is a connection at hand. -/
def pollAccept? (m : Moment) (limits : Limits) (started waiting : Bool) (d : Disposition) :
    Option Accepting :=
  match if started then limits.interruption? m else limits.refusal? m with
  | some cause => d.unlessFailing (.failed ⟨.accept, cause⟩ false)
  | none =>
    match d, waiting with
    | .fail .accept e, _ => some (.failed (.system .accept e) false)
    | .fail .localAddress e, true => some (.failed (.system .accept e) true)
    | .fail .setNoDelay e, true | .fail .setLinger e, true =>
      some (.failed (.system .configure e) true)
    | .fail _ _, _ => none
    | .proceed _, true => some .accepted
    | .proceed _, false => if started then none else some .pending

/-- How connecting stands after a poll. -/
inductive Connecting
  | pending
  | connected
  /-- Connecting failed; `seen` says whether the other side gets to see a connection. -/
  | failed (failure : Failure) (seen : Bool)
  deriving DecidableEq, Repr

/-- A poll of connecting, where `listening` says whether anyone listens there, once that is known. The
other side gets to see a connection that is given up after it was answered. -/
def pollConnect? (m : Moment) (limits : Limits) (started : Bool) (listening : Option Bool)
    (d : Disposition) : Option Connecting :=
  match if started then limits.interruption? m else limits.refusal? m with
  | some cause => d.unlessFailing (.failed ⟨.connect, cause⟩ (started && listening == some true))
  | none =>
    match d, listening with
    | .fail .connect e, _ => some (.failed (.system .connect e) false)
    | .fail .localAddress e, some true | .fail .peerAddress e, some true =>
      some (.failed (.system .connect e) true)
    | .fail .setNoDelay e, some true | .fail .setLinger e, some true =>
      some (.failed (.system .configure e) true)
    | .fail _ _, _ => none
    | .proceed _, some true => some .connected
    | .proceed _, some false => some (.failed (.system .connect .connectionRefused) false)
    | .proceed _, none => if started then none else some .pending

/-- The result of connecting where it is known at once whether anyone listens, and whether the other
side gets to see a connection. -/
def connect? (m : Moment) (limits : Limits) (listening : Bool) (d : Disposition) :
    Option (Except Failure Unit × Bool) :=
  (pollConnect? m limits false (some listening) d).bind fun
    | .pending => none
    | .connected => some (.ok (), true)
    | .failed f seen => some (.error f, seen)

end FlowBurst.Transport
