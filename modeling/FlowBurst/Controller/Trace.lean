import FlowBurst.Controller.Step

/-!
# Runs of a controller

A run is a sequence of actions, each possible after those before it, together with what the world
saw of them. What a line received and what was sent on it are read off the events of a run. Main
statements: a run in two parts is the run of both (`steps?_append`), and what is read off its events
is read off each part (`wire_append` and the like).
-/

namespace FlowBurst.Controller

open FlowBurst.OpenFlow (Frame)

namespace State

/-- The effect of actions one after another, if each is possible. -/
def steps? (s : State) : List Action → Option (State × List Event)
  | [] => some (s, [])
  | a :: rest => do
    let (s, events) ← s.step? a
    let (s, more) ← steps? s rest
    return (s, events ++ more)

theorem steps?_append (s : State) (first rest : List Action) :
    s.steps? (first ++ rest) = (s.steps? first).bind fun (t, events) =>
      (t.steps? rest).map fun (u, more) => (u, events ++ more) := by
  induction first generalizing s with
  | nil => simp [steps?]
  | cons a first ih =>
    simp only [List.cons_append, steps?, ih, bind, pure]
    cases s.step? a with
    | none => rfl
    | some p =>
      simp only [Option.bind_some]
      cases p.1.steps? first with
      | none => rfl
      | some q =>
        simp only [Option.bind_some]
        cases q.1.steps? rest with
        | none => rfl
        | some r => simp [List.append_assoc]

/-- A run goes on. -/
theorem steps?_trans {s t u : State} {first rest : List Action} {before after : List Event}
    (run : s.steps? first = some (t, before)) (run' : t.steps? rest = some (u, after)) :
    s.steps? (first ++ rest) = some (u, before ++ after) := by
  simp [steps?_append, run, run']

end State

namespace Event

/-- The bytes put on the wire of a line, in order. -/
def wire (i : Nat) (events : List Event) : List UInt8 :=
  events.flatMap fun e =>
    match e with
    | .put j _ bytes => if j = i then bytes else []
    | _ => []

/-- The bytes that the driving task of a line read, in order. -/
def bytesRead (i : Nat) (events : List Event) : List UInt8 :=
  events.flatMap fun e =>
    match e with
    | .read j bytes => if j = i then bytes else []
    | _ => []

/-- The frames that the driving task of a line received, in order. -/
def framesReceived (i : Nat) (events : List Event) : List Frame :=
  events.filterMap fun e =>
    match e with
    | .received j frame => if j = i then some frame else none
    | _ => none

/-- The frames written on a line, with the task that wrote each, in order. -/
def framesWritten (i : Nat) (events : List Event) : List (Actor × Frame) :=
  events.filterMap fun e =>
    match e with
    | .frameEnded j who frame none => if j = i then some (who, frame) else none
    | _ => none

@[simp] theorem wire_append (i : Nat) (first rest : List Event) :
    wire i (first ++ rest) = wire i first ++ wire i rest := by simp [wire]

@[simp] theorem bytesRead_append (i : Nat) (first rest : List Event) :
    bytesRead i (first ++ rest) = bytesRead i first ++ bytesRead i rest := by simp [bytesRead]

@[simp] theorem framesReceived_append (i : Nat) (first rest : List Event) :
    framesReceived i (first ++ rest) = framesReceived i first ++ framesReceived i rest := by
  simp [framesReceived]

@[simp] theorem framesWritten_append (i : Nat) (first rest : List Event) :
    framesWritten i (first ++ rest) = framesWritten i first ++ framesWritten i rest := by
  simp [framesWritten]

end Event

end FlowBurst.Controller
