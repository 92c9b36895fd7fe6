import FlowBurst.Burst.Pool
import FlowBurst.Harness

/-!
# A sender that fails as told

Bursts and a harness over a sender that keeps a record of its calls and fails those that a script
names.
-/

namespace FlowBurst.Simulation

open FlowBurst.Burst (Kind Failure Request Result Run)
open FlowBurst.Switch (Reference)

/-- What a sender saw: how often it was called, with messages of which kinds, and whether a call
began before the call before it had returned. -/
structure SenderRecord where
  calls : Nat := 0
  kinds : List Kind := []
  overlapped : Bool := false
  inside : Bool := false
  deriving DecidableEq, Repr

namespace SenderRecord

/-- The record after a call began. -/
def enter (r : SenderRecord) (k : Kind) : SenderRecord :=
  { calls := r.calls + 1, kinds := if r.kinds.contains k then r.kinds else r.kinds ++ [k]
    overlapped := r.overlapped || r.inside, inside := true }

/-- The record after a call returned. -/
def leave (r : SenderRecord) : SenderRecord := { r with inside := false }

/-- The record of the calls for one switch. -/
def ofEvents (switch : String) (events : List (Burst.Pool.Event String)) : SenderRecord :=
  events.foldl
    (fun r event =>
      match event with
      | .entered s _ k => if s = switch then r.enter k else r
      | .returned s _ => if s = switch then r.leave else r)
    {}

end SenderRecord

/-- A burst of a script: a switch, and the attempt that fails. -/
structure ScriptedBurst where
  switch : String
  failure : Option (Nat × Failure)

/-- The outcome of an attempt according to a script. -/
def scriptedOutcome (script : List ScriptedBurst) (switch : String) (attempt : UInt64) :
    Except Failure Unit :=
  match (script.find? fun b => b.switch == switch).bind ScriptedBurst.failure with
  | some (n, failure) => if n = attempt.toNat then .error failure else .ok ()
  | none => .ok ()

/-- The results of the bursts of a script, all side by side, with what the sender saw for each. -/
def runBursts (request : Request) (script : List ScriptedBurst) :
    List (Result String × SenderRecord) :=
  let (members, events) :=
    Burst.Pool.run (scriptedOutcome script) request (script.map ScriptedBurst.switch)
  members.filterMap fun m => m.result?.map fun r => (r, .ofEvents r.switch events)

/-- A harness over a sender whose `n`-th call fails if the script says so. -/
structure Rehearsal where
  harness : Harness
  stopped : Bool := false
  /-- How many reports the receiver has taken. -/
  received : Nat := 0
  sender : SenderRecord := {}
  script : List (Nat × Failure)

namespace Rehearsal

/-- One call of the sender. -/
def send (script : List (Nat × Failure)) (s : SenderRecord) (_ : Reference) (k : Kind) :
    Except Failure Unit × SenderRecord :=
  let s := s.enter k
  match script.find? fun f => f.1 == s.calls with
  | some (_, failure) => (.error failure, s.leave)
  | none => (.ok (), s.leave)

/-- Settles a burst that has ended, in at most `fuel` steps. -/
def settle : Nat → Rehearsal → Harness.Settling → List LogRecord → Rehearsal × List LogRecord
  | 0, r, _, logs => (r, logs)
  | fuel + 1, r, todo, logs =>
    match r.harness.settle? todo with
    | none => (r, logs)
    | some e =>
      settle fuel { r with harness := e.harness, stopped := r.stopped || e.stop } e.next
        (logs ++ e.notices.map Harness.Notice.record)

/-- A switch becomes ready: its burst runs to its end and is settled. -/
def ready (r : Rehearsal) (switch : Reference) : Rehearsal × List LogRecord :=
  let (result, sender) := Run.play (send r.script) switch r.harness.request r.sender
  settle 3 { r with sender } (.counting result) []

/-- The controller is asked to stop. -/
def stop (r : Rehearsal) : Rehearsal := { r with stopped := true }

/-- The receiver of the reports goes away. -/
def dropReports (r : Rehearsal) : Rehearsal :=
  { r with harness := { r.harness with reports :=
      match r.harness.reports with
      | .absent => .absent
      | _ => .dropped } }

/-- The receiver takes the next report, if there is one. -/
def receive (r : Rehearsal) : Option (Result Reference) × Rehearsal :=
  match r.harness.reports with
  | .queued results =>
    match results[r.received]? with
    | some result => (some result, { r with received := r.received + 1 })
    | none => (none, r)
  | _ => (none, r)

end Rehearsal

end FlowBurst.Simulation
