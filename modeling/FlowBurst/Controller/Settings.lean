import FlowBurst.OpenFlow.Frame
import FlowBurst.Switch.Failure

/-!
# Settings of the controller

Where the controller listens, its limits of time, the longest frame that it reads, and the options
of its sockets. Settings are checked before they are used; the first fault in a fixed order is the
one reported.
-/

namespace FlowBurst.Controller

open FlowBurst.Switch (Failure SettingsFault)
open FlowBurst.Transport (Address)

/-- Options of a socket. The lingering time is in milliseconds. -/
structure SocketOptions where
  noDelay : Bool := true
  linger : Option Nat := none
  deriving DecidableEq, Repr, Inhabited

/-- Settings of the controller. Limits of time are in milliseconds. -/
structure Settings where
  listen : Address := .unspecified 6653
  handshakeTimeout : Nat := 5000
  sendTimeout : Option Nat := none
  maxFrameLength : Nat := OpenFlow.maxFrameLength
  noDelay : Bool := true
  linger : Option Nat := none
  deriving DecidableEq, Repr

namespace Settings

/-- The first fault of the settings, if there is one. -/
def fault? (s : Settings) : Option SettingsFault :=
  if s.handshakeTimeout = 0 then some .zeroHandshakeTimeout
  else if s.sendTimeout = some 0 then some .zeroSendTimeout
  else if s.maxFrameLength < OpenFlow.headerLength ∨ OpenFlow.maxFrameLength < s.maxFrameLength then
    some (.frameLimit s.maxFrameLength)
  else none

/-- The settings, unless they have a fault. -/
def check (s : Settings) : Except Failure Settings :=
  match s.fault? with
  | some fault => .error (.settings fault)
  | none => .ok s

/-- The options of the sockets of accepted connections. -/
def socketOptions (s : Settings) : SocketOptions := { noDelay := s.noDelay, linger := s.linger }

end Settings

end FlowBurst.Controller
