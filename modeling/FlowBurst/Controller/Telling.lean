import FlowBurst.Controller.Sending

/-!
# Telling the handler

The task that tells the handler of a ready switch. An observer takes note and returns. The harness
sends a burst over the connection of the switch, message by message, and then settles it.
-/

namespace FlowBurst.Controller

open FlowBurst.Transport (Disposition)

namespace State

/-- The effect of a step of settling a burst. -/
def settle (s : State) (i : Nat) (switch : Switch.Reference) (e : Harness.Effect) :
    State × List Event :=
  let s := { s with handler := .harness e.harness, stopping := s.stopping || e.stop }
  let events := (e.notices.map fun n => Event.notice (.harness n))
    ++ if e.stop then [.stopRequested] else []
  match e.next with
  | .settled => (s.tell i .returned, events ++ [.readyReturned i switch])
  | todo => (s.tell i (.settling switch todo), events)

/-- The next step of the task that tells the handler of the switch of a line. -/
def handle? (s : State) (i : Nat) (d : Disposition) : Option (State × List Event) := do
  let c ← s.connection? i
  match c.news, s.handler with
  | .spawned switch, .observer faulty =>
    d.unlessFailing
      (s.tell i (if switch.datapath ∈ faulty then .lost else .observing switch),
        [.readyCalled i switch])
  | .spawned switch, .harness h =>
    d.unlessFailing (s.tell i (.bursting (.start switch h.request)), [.readyCalled i switch])
  | .observing switch, _ => d.unlessFailing (s.tell i .returned, [.readyReturned i switch])
  | .bursting run, _ =>
    d.unlessFailing <|
      if run.isSending then
        (s.tell i (.sending run (.looking (.connection run.switch) run.request.kind.message)), [])
      else
        (s.tell i (.settling run.switch (.counting run.complete)), [.burstEnded i run.complete])
  | .sending run sending, _ =>
    let (s, events, progress) ← s.send? (.handler i) d sending
    match progress with
    | .inl sending => return (s.tell i (.sending run sending), events)
    | .inr (.ok _) => return (s.tell i (.bursting run.succeed), events)
    | .inr (.error f) =>
      let result := run.abort (.ofSwitch f)
      return (s.tell i (.settling run.switch (.counting result)), events ++ [.burstEnded i result])
  | .settling switch todo, .harness h =>
    let effect ← h.settle? todo
    d.unlessFailing (s.settle i switch effect)
  | _, _ => none

end State

end FlowBurst.Controller
