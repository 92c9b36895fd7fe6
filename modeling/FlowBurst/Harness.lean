import FlowBurst.Burst.Run
import FlowBurst.Log

/-!
# The burst harness

The harness starts a burst for every switch that becomes ready and decides, when a burst has
ended, whether the controller is to stop: after a failed burst, if it is told to, or once a number
of bursts have ended. It can stop the controller only if it holds a shutdown token. With a report
channel, each result is put into the channel, unless nobody listens any more.

Bursts to several switches run side by side, and what follows the end of a burst is done in steps
that others may come between: the burst is counted, the decision to stop is made, and the result is
reported.
-/

namespace FlowBurst

open FlowBurst.Burst (Request Result)
open FlowBurst.Switch (Reference)

/-- Where the results of bursts go. -/
inductive Reports
  /-- No report channel was set. -/
  | absent
  /-- The receiver of the channel is gone. -/
  | dropped
  /-- The results so far, the oldest first. -/
  | queued (results : List (Result Reference))
  deriving DecidableEq, Repr

/-- The channel after a result was put into it. -/
def Reports.push : Reports → Result Reference → Reports
  | queued results, r => queued (results ++ [r])
  | reports, _ => reports

/-- The policy and the counters of a harness. -/
structure Harness where
  request : Request
  exitOnFailure : Bool := false
  maxBursts : Option UInt64 := none
  /-- Whether the harness holds a shutdown token. -/
  canStop : Bool := false
  reports : Reports := .absent
  finished : UInt64 := 0
  stoppedOnFailure : Bool := false
  deriving DecidableEq, Repr

namespace Harness

/-- What the harness has to say about the bursts. -/
inductive Notice
  | burstCompleted (result : Result Reference)
  | burstAborted (result : Result Reference) (attempt : UInt64) (cause : Burst.Failure)
  | stoppingAfterFailure (switch : Reference)
  | limitReached (finished : UInt64)
  deriving DecidableEq, Repr

/-- The notice on the end of a burst. -/
def Notice.ofResult (r : Result Reference) : Notice :=
  match r.failedAt, r.cause with
  | some attempt, some cause => burstAborted r attempt cause
  | _, _ => burstCompleted r

/-- The log record of a notice. -/
def Notice.record : Notice → LogRecord
  | burstCompleted r =>
    { level := .info, message := "burst completed"
      fields := [("dpid", r.switch.datapath.text), ("sent", toString r.sent.toNat),
        ("count", toString r.requested.toNat)] }
  | burstAborted r attempt cause =>
    { level := .warn, message := "burst aborted"
      fields := [("dpid", r.switch.datapath.text),
        ("connection_id", toString r.switch.connection.toNat), ("sent", toString r.sent.toNat),
        ("count", toString r.requested.toNat), ("attempt", toString attempt.toNat),
        ("error", cause.message)] }
  | stoppingAfterFailure switch =>
    { level := .info, message := "stopping after failed burst"
      fields := [("switch", switch.text)] }
  | limitReached finished =>
    { level := .info, message := "burst limit reached, stopping"
      fields := [("finished", toString finished.toNat)] }

/-- What is left to do for a burst that has ended. -/
inductive Settling
  | counting (result : Result Reference)
  /-- The number of ended bursts is given if it had reached the limit when the burst was counted. -/
  | deciding (result : Result Reference) (reached : Option UInt64)
  | reporting (result : Result Reference)
  | settled
  deriving DecidableEq, Repr

/-- The effect of one step of settling a burst. -/
structure Effect where
  harness : Harness
  next : Settling
  /-- Whether the step asks the controller to stop. -/
  stop : Bool := false
  notices : List Notice := []
  deriving DecidableEq, Repr

/-- A number of ended bursts, if it has reached the limit. -/
def reached? (h : Harness) (finished : UInt64) : Option UInt64 :=
  match h.maxBursts with
  | some limit => if limit ≤ finished then some finished else none
  | none => none

/-- Counts a burst that has ended. -/
def count (h : Harness) (r : Result Reference) : Effect :=
  let finished := h.finished + 1
  { harness := { h with finished }, next := .deciding r (h.reached? finished)
    notices := [.ofResult r] }

/-- Decides whether the end of a burst stops the controller. That a failure is the reason is noted
before the controller is asked to stop, which is taken for one step: the note is never taken back and
is only read once the controller has stopped, and until then the other tasks look at the request
alone. -/
def decide (h : Harness) (r : Result Reference) (reached : Option UInt64) : Effect :=
  let go : Effect := { harness := h, next := .reporting r }
  if !h.canStop then go
  else if h.exitOnFailure && r.isAborted then
    { harness := { h with stoppedOnFailure := true }, next := .reporting r, stop := true
      notices := [.stoppingAfterFailure r.switch] }
  else
    match reached with
    | some finished => { go with stop := true, notices := [.limitReached finished] }
    | none => go

/-- Reports the result of a burst. -/
def report (h : Harness) (r : Result Reference) : Effect :=
  { harness := { h with reports := h.reports.push r }, next := .settled }

/-- The next step of settling a burst, if one is left. -/
def settle? (h : Harness) : Settling → Option Effect
  | .counting r => some (h.count r)
  | .deciding r reached => some (h.decide r reached)
  | .reporting r => some (h.report r)
  | .settled => none

end Harness

end FlowBurst
