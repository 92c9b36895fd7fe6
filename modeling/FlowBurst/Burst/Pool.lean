import FlowBurst.Burst.Run

/-!
# Bursts side by side

Several bursts over one sender whose outcome for a switch depends only on the number of the
attempt. A burst enters a call of the sender in one step and gets its outcome in a later one, and
the steps of different bursts come in any order.
-/

namespace FlowBurst.Burst

/-- One of several bursts: in progress, possibly inside a call of the sender, or ended. -/
structure Pool.Member (ι : Type) where
  state : Run ι ⊕ Result ι
  calling : Bool := false
  deriving DecidableEq, Repr

/-- What happens between a burst and the sender. -/
inductive Pool.Event (ι : Type)
  | entered (switch : ι) (attempt : UInt64) (kind : Kind)
  | returned (switch : ι) (attempt : UInt64)
  deriving DecidableEq, Repr

namespace Pool

variable {ι : Type}

/-- A burst that is about to begin. -/
def Member.start (switch : ι) (request : Request) : Member ι :=
  { state := .inl (.start switch request) }

/-- The result of a burst that has ended. -/
def Member.result? (m : Member ι) : Option (Result ι) :=
  match m.state with
  | .inl _ => none
  | .inr r => some r

/-- The next step of one burst, if it has one. -/
def Member.step? (outcome : ι → UInt64 → Except Failure Unit) (m : Member ι) :
    Option (Member ι × List (Event ι)) :=
  match m.state with
  | .inr _ => none
  | .inl r =>
    if m.calling then
      some ({ state := r.afterSend (outcome r.switch r.attempt) }, [.returned r.switch r.attempt])
    else if r.isSending then
      some ({ m with calling := true }, [.entered r.switch r.attempt r.request.kind])
    else some ({ state := .inr r.complete }, [])

/-- The next step of the `i`-th burst, if it has one. -/
def step? (outcome : ι → UInt64 → Except Failure Unit) (ms : List (Member ι)) (i : Nat) :
    Option (List (Member ι) × List (Event ι)) := do
  let m ← ms[i]?
  let (m, events) ← m.step? outcome
  return (ms.set i m, events)

/-- One step of every burst that has one, in turn. -/
def round (outcome : ι → UInt64 → Except Failure Unit) :
    List (Member ι) → List (Member ι) × List (Event ι)
  | [] => ([], [])
  | m :: ms =>
    let (m, here) := (m.step? outcome).getD (m, [])
    let (ms, later) := round outcome ms
    (m :: ms, here ++ later)

/-- At most `fuel` rounds, until every burst has ended. The events are given latest first. -/
def roundsUpTo (outcome : ι → UInt64 → Except Failure Unit) :
    Nat → List (Member ι) → List (Event ι) → List (Member ι) × List (Event ι)
  | 0, ms, events => (ms, events)
  | fuel + 1, ms, events =>
    if ms.all fun m => m.result?.isSome then (ms, events)
    else
      let (ms, new) := round outcome ms
      roundsUpTo outcome fuel ms (new.reverse ++ events)

/-- Bursts to several switches in turn, until all have ended. Two steps per message and one more
bound the number of rounds. -/
def run (outcome : ι → UInt64 → Except Failure Unit) (request : Request) (switches : List ι) :
    List (Member ι) × List (Event ι) :=
  let (ms, events) := roundsUpTo outcome (2 * request.count.toNat + 1)
    (switches.map fun s => Member.start s request) []
  (ms, events.reverse)

end Pool

end FlowBurst.Burst
