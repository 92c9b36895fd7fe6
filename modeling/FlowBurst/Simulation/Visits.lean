import FlowBurst.Program
import FlowBurst.Simulation.Network

/-!
# A run of the program among simulated switches

The program is given its arguments and what is found at paths, and is visited by switches one after
another. Each completes the handshake and reads some frames, or all until the program closes the
connection. In between the user may interrupt the program, or listening for that may fail.
-/

namespace FlowBurst.Simulation

open FlowBurst.Controller
open FlowBurst.OpenFlow (Features Frame)
open FlowBurst.Switch (DatapathId)

/-- What happens to a running program. -/
inductive Visit
  /-- A switch comes and reads so many frames after the handshake, or all. -/
  | switch (datapath : DatapathId) (frames : Option Nat)
  | interrupt
  /-- Listening for an interrupt fails. -/
  | deafen
  deriving DecidableEq, Repr

/-- What came of a run of the program: how it ended, unless it never did, whether it listened, and
what the switches received. -/
structure Visited where
  outcome : Option Outcome
  listened : Bool
  received : List Network.Received

namespace Network

/-- How many unread bytes a connection of a visit holds. -/
def visitCapacity : Nat := 1048576

/-- The bytes with which a switch begins the handshake. -/
def greeting : List UInt8 := ({ xid := 1, message := .hello [] } : Frame).bytes

/-- The bytes with which a switch completes the handshake. -/
def introduction (d : DatapathId) (xid : UInt32) : List UInt8 :=
  let features : Features :=
    { datapathId := d.value, buffers := 256, tables := 254, auxiliaryId := 0, capabilities := 0 }
  ({ xid, message := .featuresReply features } : Frame).bytes

/-- A switch visits. -/
def visit (n : Network) (d : DatapathId) (frames : Option Nat) : Option (Received × Network) := do
  let (_, n) := n.connect ""
  match n.station? "" with
  | none => return ({ frames := [], closed := true }, n)
  | some s => do
    let n := n.send s greeting
    let (first, n) := n.receive s (some 2)
    let first ← first
    if first.closed then return (first, n)
    else do
      let xid := (first.frames.getLast?.map Frame.xid).getD 0
      let n := n.send s (introduction d xid)
      let (later, n) := n.receive s frames
      let later ← later
      let n := if frames.isSome then n.drop s else n
      return ({ later with frames := first.frames ++ later.frames }, n)

/-- Visits one after another, where `deaf` says whether an interrupt is no longer heard. -/
def visits : List Visit → (deaf : Bool) → Network → Option (List Received × Network)
  | [], _, n => some ([], n)
  | .switch d frames :: rest, deaf, n => do
    let (r, n) ← n.visit d frames
    let (rs, n) ← visits rest deaf n
    return (r :: rs, n)
  | .interrupt :: rest, deaf, n => visits rest deaf (if deaf then n else n.act .stop)
  | .deafen :: rest, _, n => visits rest true n

end Network

/-- The controller of a program that has started, or how the program ended instead. -/
def startProgram (args : List String) (files : String → FileContent) (faults : List Fault) :
    Except Outcome Network :=
  match CommandLine.parse args with
  | .error e => .error (.usage e)
  | .ok c =>
    match c.plan files with
    | .error e => .error (.notStarted (.loading e))
    | .ok plan =>
      let handler := .harness plan.harness
      match Network.start plan.controller handler Network.visitCapacity faults none with
      | .error f => .error (.notStarted (.binding f))
      | .ok n => .ok n

/-- Runs the program among visits. -/
def runProgram (args : List String) (files : String → FileContent) (faults : List Fault)
    (visits : List Visit) : Visited :=
  match startProgram args files faults with
  | .error outcome => { outcome := some outcome, listened := false, received := [] }
  | .ok n =>
    let ended : Option (List Network.Received × Bool) := do
      let (received, n) ← Network.visits visits false n
      let (finished, n) := n.until_ Network.runFinished
      finished
      return (received, (n.harness?.map Harness.stoppedOnFailure).getD false)
    match ended with
    | some (received, stopped) => { outcome := some (.ran stopped), listened := true, received }
    | none => { outcome := none, listened := true, received := [] }

end FlowBurst.Simulation
