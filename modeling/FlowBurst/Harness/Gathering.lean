import FlowBurst.Harness

/-!
# Calls of a harness side by side

Several switches may be ready at once, and then several calls of one harness settle their bursts
side by side. Each call counts its burst, decides and reports in steps of its own; the steps of
different calls come in any order.
-/

namespace FlowBurst

open FlowBurst.Burst (Result)
open FlowBurst.Switch (Reference)

/-- A call of a harness whose burst has ended, and what is left to do for it. -/
structure Harness.Call where
  result : Result Reference
  todo : Harness.Settling
  deriving DecidableEq, Repr

/-- Calls of one harness side by side. -/
structure Gathering where
  harness : Harness
  calls : List Harness.Call
  /-- Whether a call has asked the controller to stop. -/
  stopped : Bool := false
  /-- The calls whose bursts have been counted, the first one first. -/
  counted : List Nat := []
  deriving DecidableEq, Repr

namespace Gathering

/-- Calls whose bursts have just ended with the given results. -/
def start (h : Harness) (results : List (Result Reference)) : Gathering :=
  { harness := h, calls := results.map fun r => { result := r, todo := .counting r } }

/-- The next step of the `i`-th call, if it has one. -/
def step? (g : Gathering) (i : Nat) : Option Gathering := do
  let c ← g.calls[i]?
  let e ← g.harness.settle? c.todo
  return { harness := e.harness, calls := g.calls.set i { c with todo := e.next }
           stopped := g.stopped || e.stop
           counted :=
             match c.todo with
             | .counting _ => g.counted ++ [i]
             | _ => g.counted }

/-- The steps of calls in a given order, if each is possible. -/
def run? (g : Gathering) (order : List Nat) : Option Gathering := order.foldlM step? g

/-- Whether every call has returned. -/
def isSettled (g : Gathering) : Bool := g.calls.all fun c => c.todo = .settled

end Gathering

end FlowBurst
