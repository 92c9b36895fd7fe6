import FlowBurst.Controller.Step

/-!
# Letting the tasks of a controller run

One way to run a controller: every task in turn goes on until it has to wait or has taken a number
of steps, and when none can go on the clock may move on to the next limit of time. The tasks take
their steps in something that holds the state of the controller.
-/

namespace FlowBurst.Controller

open FlowBurst.Transport (Call)

namespace Schedule

variable {σ : Type} (step? : σ → Actor → Option σ) (state : σ → State)

/-- At most `fuel` steps of a task, and whether there was one. -/
def turn : (fuel : Nat) → σ → Actor → σ × Bool
  | 0, x, _ => (x, false)
  | fuel + 1, x, who =>
    match step? x who with
    | none => (x, false)
    | some x => ((turn fuel x who).1, true)

/-- How many steps a task takes before it lets others go on. -/
def patience : Nat := 400

/-- The tasks of a controller. -/
def actors (s : State) : List Actor :=
  .acceptor :: ((List.range s.lines.length).flatMap fun i => [.driver i, .handler i])
    ++ (List.range s.callers.length).map .caller

/-- A turn of each task, and whether any of them took a step. -/
def round (x : σ) : σ × Bool :=
  (actors (state x)).foldl
    (fun (x, moved) who =>
      let (x, here) := turn step? patience x who
      (x, moved || here))
    (x, false)

/-- At most `fuel` rounds, until no task can go on. -/
def settle : (fuel : Nat) → σ → σ
  | 0, x => x
  | fuel + 1, x =>
    match round step? state x with
    | (x, true) => settle fuel x
    | (x, false) => x

end Schedule

/-! ### Limits of time -/

/-- The deadlines of the calls of a connection. -/
def Connection.deadlines (c : Connection) : List Nat :=
  let stage : Option Call :=
    match c.stage with
    | .writing _ _ call | .reading _ call | .displacing _ _ call | .closing _ call => some call
    | _ => none
  let news : Option Call :=
    match c.news with
    | .sending _ (.writing _ _ call) => some call
    | _ => none
  [stage, news].filterMap fun call => call.bind fun call => call.limits.deadline

/-- The deadline of a call from outside. -/
def Caller.deadline? : Caller → Option Nat
  | .sending (.writing _ _ call) | .closing _ call => call.limits.deadline
  | _ => none

/-- The next time at which a limit of time is reached. -/
def State.nextAlarm (s : State) : Option Nat :=
  let acceptor := match s.acceptor with
    | .resting till => [till]
    | _ => []
  let lines := s.lines.flatMap fun l => (l.connection.map Connection.deadlines).getD []
  ((acceptor ++ lines ++ s.callers.filterMap Caller.deadline?).filter (s.now < ·)).min?

end FlowBurst.Controller
