import FlowBurst.OpenFlow.FrameError
import FlowBurst.Switch.Session
import FlowBurst.Transport.Failure

/-!
# Failures on the connection with a switch

Why an exchange with a switch, or the setting up of the controller, failed; the text of each cause;
and whether it means that the connection is gone or that a limit of time was reached.
-/

namespace FlowBurst.Switch

/-- Why settings of the controller are refused. -/
inductive SettingsFault
  | zeroHandshakeTimeout
  | zeroSendTimeout
  | frameLimit (limit : Nat)
  | described (detail : String)
  deriving DecidableEq, Repr

/-- The text of a fault of the settings. -/
def SettingsFault.message : SettingsFault → String
  | zeroHandshakeTimeout => "handshake_timeout_ms must be greater than zero"
  | zeroSendTimeout => "send_timeout_ms must be greater than zero"
  | frameLimit limit => "max_frame_len must be within 8..=65535, got " ++ toString limit
  | described detail => detail

/-- Why an exchange with a switch failed. -/
inductive Failure
  | transport (failure : Transport.Failure)
  | frame (error : OpenFlow.FrameError)
  /-- The handshake took longer than its limit, in milliseconds. -/
  | handshakeTimeout (peer : String) (limit : Nat)
  | incompatibleVersion (peer : String) (version : UInt8)
  | unexpectedMessage (peer expected actual : String)
  | peerClosed
  | notConnected (datapath : DatapathId)
  | connectionReplaced (switch : Reference)
  | refusedMove (move : RefusedMove)
  | settings (fault : SettingsFault)
  deriving DecidableEq, Repr

namespace Failure

/-- The text of a failure. -/
def message : Failure → String
  | transport f => f.message
  | frame e => e.message
  | handshakeTimeout peer limit =>
    "openflow handshake with " ++ peer ++ " did not complete within " ++ Text.duration limit
  | incompatibleVersion peer version =>
    "peer " ++ peer ++ " speaks openflow version " ++ Text.hex 2 version.toNat
      ++ ", 0x04 is required"
  | unexpectedMessage peer expected actual =>
    "expected " ++ expected ++ " from " ++ peer ++ ", received " ++ actual
  | peerClosed => "switch connection closed by peer"
  | notConnected d => "switch " ++ d.text ++ " is not connected"
  | connectionReplaced r =>
    "connection " ++ r.text ++ " is no longer the active connection of its switch"
  | refusedMove m =>
    "invalid connection state transition: " ++ m.source.name ++ " -> " ++ m.target.name
      ++ " is not permitted"
  | settings fault => "invalid controller configuration: " ++ fault.message

/-- Whether the connection is gone or has been given up. -/
def isDisconnect : Failure → Bool
  | peerClosed | notConnected _ | connectionReplaced _ => true
  | transport f => f.isClosed || f.isCancelled
  | _ => false

/-- Whether a limit of time was reached. -/
def isTimeout : Failure → Bool
  | handshakeTimeout _ _ => true
  | transport f => f.isTimeout
  | _ => false

/-- The text of the cause behind a failure, if it has one. -/
def source? : Failure → Option String
  | transport f => f.source?
  | _ => none

end Failure

end FlowBurst.Switch
