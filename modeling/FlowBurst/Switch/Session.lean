import FlowBurst.Switch.Identity
import FlowBurst.Transport.Address

/-!
# The session of a connection

A session starts as discovered, becomes ready once the switch has reported its datapath, and ends as
closed; a handshake that fails takes it from discovered to closed. Entering the state that a session
is in already is allowed and changes nothing; a refused move leaves the session as it was.
-/

namespace FlowBurst.Switch

/-- How far a connection has come. -/
inductive SessionState
  | discovered
  | ready
  | closed
  deriving DecidableEq, Repr

namespace SessionState

/-- Every state. -/
def all : List SessionState := [discovered, ready, closed]

/-- The name of a state. -/
def name : SessionState → String
  | discovered => "Discovered"
  | ready => "Ready"
  | closed => "Closed"

/-- Whether a session may move from one state to another. -/
def mayBecome : SessionState → SessionState → Bool
  | discovered, _ => true
  | ready, ready | ready, closed => true
  | closed, closed => true
  | _, _ => false

/-- Whether no other state follows. -/
def isTerminal (s : SessionState) : Bool := s == closed

end SessionState

/-- What a connection knows of its switch. -/
structure Session where
  connection : UInt64
  peer : Transport.Address
  datapath : Option DatapathId := none
  state : SessionState := .discovered
  deriving DecidableEq, Repr

/-- A move of a session that is not allowed. -/
structure RefusedMove where
  source : SessionState
  target : SessionState
  deriving DecidableEq, Repr

namespace Session

/-- Moves a session to a state. -/
def enter (s : Session) (target : SessionState) : Except RefusedMove Session :=
  if s.state = target then .ok s
  else if s.state.mayBecome target then .ok { s with state := target }
  else .error ⟨s.state, target⟩

/-- Moves a session to ready and notes the datapath that its switch reported. -/
def becomeReady (s : Session) (d : DatapathId) : Except RefusedMove Session :=
  (s.enter .ready).map fun s => { s with datapath := some d }

end Session

end FlowBurst.Switch
