/-!
# Waiting for a cancellation flag

A cancellation flag is raised once and never lowered. Those who wait for it do so in steps: they
take a place in the queue of those to be woken, look at the flag, and if it is not up they sleep
until they are woken and then begin anew. Those who raise it set the flag first and then have
everyone woken who has a place in the queue at that moment, whether asleep yet or not. The steps of
any number of tasks on one flag may come in any order.

The queue itself is not part of the flag. It is known by what is asked of it and by what it answers.
-/

namespace FlowBurst.Transport

/-- What is asked of a queue of those to be woken. Places are numbered from 0 in the order in which
they are taken. -/
inductive WakeQueue.Request
  | take
  /-- The holder of a place asks whether it has been woken. -/
  | look (place : Nat)
  | leave (place : Nat)
  | wakeAll
  deriving DecidableEq, Repr

/-- A queue of those to be woken: whether the holder of a place, if it asks after some requests, is
told that it has been woken. -/
structure WakeQueue where
  woken : List WakeQueue.Request → Nat → Bool

namespace WakeQueue

/-- Everyone in the queue has been woken since a place was taken. -/
def Called (requests : List Request) (place : Nat) : Prop :=
  ∃ before after, requests = before ++ .wakeAll :: after ∧ place < before.count .take

/-- What a flag relies on: whoever has a place when everyone is woken finds itself woken from then
on, whether it had asked before or not, until it leaves the place. -/
def WakesAll (q : WakeQueue) : Prop :=
  ∀ requests place, Called requests place → .leave place ∉ requests → q.woken requests place = true

end WakeQueue

/-- How far a task has come that waits for a flag. -/
inductive Waiting
  | started
  /-- In the queue, but it has not looked at the flag since. -/
  | queued (place : Nat)
  | asleep (place : Nat)
  | returned
  /-- Given up by its owner while it slept. -/
  | abandoned
  deriving DecidableEq, Repr

/-- How far a task has come that raises a flag. -/
inductive Raising
  | started
  /-- The flag is up, but nobody has been woken by this task. -/
  | raised
  | returned
  deriving DecidableEq, Repr

/-- A cancellation flag and the tasks at work on it. -/
structure Cancellation where
  flag : Bool := false
  /-- What has been asked of the queue, the first request first. -/
  requests : List WakeQueue.Request := []
  waiting : List Waiting := []
  raising : List Raising := []
  deriving DecidableEq, Repr

/-- What can happen to a cancellation flag next. -/
inductive Cancellation.Action
  | wait (index : Nat)
  /-- A sleeping task is given up. -/
  | abandon (index : Nat)
  | raise (index : Nat)
  /-- A further task begins to wait. -/
  | joinWaiting
  /-- A further task begins to raise the flag. -/
  | joinRaising
  deriving DecidableEq, Repr

/-- The next step of a task that waits, if it can take one, and what it asks of the queue in it. A
task that was woken leaves its place and looks at the flag once more from a new one. -/
def Waiting.step? (q : WakeQueue) (flag : Bool) (requests : List WakeQueue.Request) :
    Waiting → Option (Waiting × List WakeQueue.Request)
  | started => some (queued (requests.count .take), [.take])
  | queued place => some (if flag then (returned, [.leave place]) else (asleep place, []))
  | asleep place =>
    some (if q.woken requests place then (started, [.look place, .leave place])
      else (asleep place, [.look place]))
  | returned | abandoned => none

namespace Cancellation

/-- The effect of an action, if it is possible. -/
def step? (q : WakeQueue) (c : Cancellation) : Action → Option Cancellation
  | .wait i => do
    let w ← c.waiting[i]?
    let (w, asked) ← w.step? q c.flag c.requests
    return { c with requests := c.requests ++ asked, waiting := c.waiting.set i w }
  | .abandon i => do
    match ← c.waiting[i]? with
    | .asleep place =>
      return { c with requests := c.requests ++ [.leave place]
                      waiting := c.waiting.set i .abandoned }
    | _ => none
  | .raise i => do
    match ← c.raising[i]? with
    | .started => return { c with flag := true, raising := c.raising.set i .raised }
    | .raised =>
      return { c with requests := c.requests ++ [.wakeAll], raising := c.raising.set i .returned }
    | .returned => none
  | .joinWaiting => some { c with waiting := c.waiting ++ [.started] }
  | .joinRaising => some { c with raising := c.raising ++ [.started] }

/-- Actions in a given order, if each is possible. -/
def run? (q : WakeQueue) (c : Cancellation) (actions : List Action) : Option Cancellation :=
  actions.foldlM (step? q) c

end Cancellation

end FlowBurst.Transport
