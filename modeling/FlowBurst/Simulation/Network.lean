import FlowBurst.Controller.Schedule
import FlowBurst.Simulation.Fault

/-!
# A controller among simulated switches

Runs a controller by its own steps: every task in turn goes on until it has to wait, and the clock
moves on to the next limit of time when no task can go on. Switches are played from outside: they
connect, send, read and hang up. A send of a burst may be held back until it is released.
-/

namespace FlowBurst.Simulation

open FlowBurst.Burst (Result)
open FlowBurst.Controller
open FlowBurst.OpenFlow (Frame FrameError)
open FlowBurst.Switch (DatapathId Handle Reference)
open FlowBurst.Transport (Address Call OsError)

/-- What a handler lets the outside know. -/
inductive Sighting
  | ready (switch : Reference)
  | disconnected (switch : Reference)
  deriving DecidableEq, Repr

/-- A simulated switch: its line, and the bytes that it has read and not made frames of. -/
structure Station where
  name : String
  line : Nat
  buffer : List UInt8 := []
  dropped : Bool := false
  deriving Repr

/-- A controller, the switches around it, and what has been seen of it. -/
structure Network where
  state : State
  faults : List Fault := []
  /-- A send of a burst that waits to be released: the connection number and the attempt. -/
  hold : Option (UInt64 × UInt64) := none
  stations : List Station := []
  /-- The warnings and the sightings so far, the latest first. -/
  notices : List Notice := []
  sightings : List Sighting := []
  /-- How many sightings or reports have been consumed. -/
  consumed : Nat := 0

namespace Network

/-- A controller that has checked its settings and bound its listener. -/
def start (settings : Settings) (handler : Handler) (capacity : Nat) (faults : List Fault)
    (hold : Option (UInt64 × UInt64)) : Except Switch.Failure Network :=
  match settings.check with
  | .error f => .error f
  | .ok settings =>
    let state := State.start settings handler capacity
    match Fault.meet (Transport.bind? settings.listen false) faults with
    | some (.error f, _) => .error (.transport f)
    | some (.ok (), faults) => .ok { state, faults, hold }
    | none => .ok { state, faults, hold }

/-! ### Running -/

/-- Whether the task that tells the handler of a line waits at the send that is held back. -/
def isHeld (n : Network) (i : Nat) : Bool :=
  match n.hold, n.state.connection? i with
  | some (number, attempt), some c =>
    match c.news with
    | .bursting run =>
      c.session.connection == number && run.isSending && run.attempt == attempt
    | _ => false
  | _, _ => false

/-- The line on which the next step of a task acts. -/
def lineOf (s : State) : Actor → Option Nat
  | .acceptor => none
  | .driver i =>
    match (s.connection? i).map Connection.stage with
    | some (.displacing _ h _) => some h.channel
    | _ => some i
  | .handler i =>
    match (s.connection? i).map Connection.news with
    | some (.sending _ sending) => sending.channel?
    | _ => none
  | .caller k => s.callers[k]?.bind Caller.channel?

/-- Takes note of an event. -/
def note (n : Network) : Event → Network
  | .notice notice => { n with notices := notice :: n.notices }
  | .readyCalled _ switch => { n with sightings := .ready switch :: n.sightings }
  | .disconnectedCalled _ switch => { n with sightings := .disconnected switch :: n.sightings }
  | _ => n

/-- An action of the surroundings, if it is possible. -/
def act (n : Network) (a : Action) : Network :=
  match n.state.step? a with
  | some (state, events) => events.foldl note { n with state }
  | none => n

/-- A step of a task, if it can take one. The connection on which it acts goes away with its last
user. -/
def step? (n : Network) (who : Actor) : Option Network :=
  let held := match who with
    | .handler i => n.isHeld i
    | _ => false
  if held then none
  else
    let deed d := n.state.step? (.run who d)
    let met :=
      if n.faults.isEmpty then
        (deed (.proceed Fault.boundless)).map fun a => (a, n.faults)
      else Fault.meetAt (lineOf n.state who) deed n.faults Fault.order
    met.map fun ((state, events), faults) =>
      let after := events.foldl note { n with state, faults }
      ((lineOf n.state who).map fun i => after.act (.letGo i)).getD after

/-- A turn of each task, and whether any of them took a step. -/
def round (n : Network) : Network × Bool := Schedule.round step? Network.state n

/-- Runs, in at most `fuel` rounds, until a probe has an answer; the probe may itself act on the
network. There is no answer if nothing is left that could happen. -/
def await {α : Type} (probe : Network → Option α × Network) : Nat → Network → Option α × Network
  | 0, n => (none, n)
  | fuel + 1, n =>
    match probe n with
    | (some a, n) => (some a, n)
    | (none, n) =>
      match n.round with
      | (n, true) => await probe fuel n
      | (n, false) =>
        match n.state.nextAlarm with
        | some t => await probe fuel { n with state := { n.state with now := t } }
        | none => (none, n)

/-- More rounds than a run takes. -/
def endless : Nat := 100000000

/-- Runs until something holds. -/
def until_ (n : Network) (p : Network → Bool) : Option Unit × Network :=
  await (fun n => (if p n then some () else none, n)) endless n

/-! ### Switches -/

/-- The station of a name, the latest first. -/
def station? (n : Network) (name : String) : Option Station :=
  n.stations.reverse.find? fun s => s.name == name

/-- The network with a station changed. -/
def withStation (n : Network) (s : Station) : Network :=
  { n with stations := n.stations.map fun t => if t.line = s.line then s else t }

/-- The link of a line. -/
def link (n : Network) (i : Nat) : Transport.Link :=
  match n.state.lines[i]? with
  | some l => l.link
  | none => { capacity := 0 }

/-- Whether the controller has ended its writing on a line. -/
def hungUp (n : Network) (i : Nat) : Bool := (n.link i).server.writingEnded || (n.link i).wasReset

/-- The address of the switch on a line. -/
def addressOf (i : Nat) : Address := .loopback (40000 + i).toUInt16

/-- Adds a fault. -/
def inject (n : Network) (f : Fault) : Network := { n with faults := n.faults ++ [f] }

/-- What comes of connecting. -/
inductive Greeting
  /-- Nobody listens any more. -/
  | refused
  /-- The controller's first byte has come, or the connection was closed instead. -/
  | met (greeted : Bool)
  | stuck
  deriving DecidableEq, Repr

/-- A switch connects, and waits for the first byte or the end of the connection. -/
def connect (n : Network) (name : String) : Greeting × Network :=
  let i := n.state.lines.length
  match n.state.step? (.connect (addressOf i)) with
  | none => (.refused, n)
  | some (state, _) =>
    let n := { n with state, stations := n.stations ++ [{ name, line := i }] }
    let probe (n : Network) : Option Bool × Network :=
      if (n.link i).client.arrived ≠ [] then (some true, n)
      else if n.hungUp i then (some false, n)
      else (none, n)
    match await probe endless n with
    | (some greeted, n) => (.met greeted, n)
    | (none, n) => (.stuck, n)

/-- A switch sends bytes, waiting for room if need be; what can no longer be sent is lost. -/
def send (n : Network) (s : Station) (bytes : List UInt8) : Network :=
  let rec go : Nat → Network → List UInt8 → Network
    | 0, n, _ => n
    | fuel + 1, n, bytes =>
      if bytes = [] then n
      else
        match (n.link s.line).write? .client bytes bytes.length with
        | some (.ok k, _) => go fuel (n.act (.deliver s.line (bytes.take k))) (bytes.drop k)
        | some (.error _, _) => n
        | none =>
          let fits (n : Network) : Option Unit × Network :=
            (if ((n.link s.line).write? .client bytes 1).isSome then some () else none, n)
          match await fits endless n with
          | (some (), n) => go fuel n bytes
          | (none, n) => n
  go (2 * bytes.length + 2) n bytes

/-- What a switch received. -/
structure Received where
  frames : List Frame
  /-- Whether the connection ended before the frames asked for had come. -/
  closed : Bool
  /-- The bytes left over if it ended inside a frame. -/
  torn : List UInt8 := []

/-- At most `k` frames from the front of a buffer, and the rest. -/
def takeFrames (k : Nat) (buffer : List UInt8) : List Frame × List UInt8 :=
  let answers := Frame.decodeUpTo OpenFlow.maxFrameLength k buffer
  (answers.filterMap fun a =>
      match a.1 with
      | .ok frame => frame
      | .error _ => none,
    (answers.getLast?.map Prod.snd).getD buffer)

/-- How many whole frames a buffer holds at most. -/
def frameBound (buffer : List UInt8) : Nat := buffer.length / OpenFlow.headerLength + 1

/-- Reads what has come to a switch, and says whether the connection has ended. -/
def readAll (n : Network) (s : Station) : Bool × Station × Network :=
  let l := n.link s.line
  match l.read? .client l.client.arrived.length with
  | some (.ok [], _) | some (.error _, _) => (true, s, n)
  | some (.ok bytes, _) =>
    let n := n.act (.collect s.line bytes.length)
    let s := { s with buffer := s.buffer ++ bytes }
    let ended := ((n.link s.line).read? .client 1).isSome
    (ended, s, n.withStation s)
  | none => (false, s, n)

/-- A switch receives `wanted` frames, or all until the connection ends. -/
def receive (n : Network) (s : Station) (wanted : Option Nat) : Option Received × Network :=
  let probe (n : Network) : Option Received × Network :=
    match n.stations.find? fun t => t.line = s.line with
    | none => (some { frames := [], closed := true }, n)
    | some s =>
      let enough (s : Station) (n : Network) : Option (Received × Network) :=
        match wanted with
        | none => none
        | some k =>
          let (frames, rest) := takeFrames k s.buffer
          if frames.length < k then none
          else some ({ frames, closed := false }, n.withStation { s with buffer := rest })
      match enough s n with
      | some (r, n) => (some r, n)
      | none =>
        let (ended, s, n) := n.readAll s
        match enough s n with
        | some (r, n) => (some r, n)
        | none =>
          if ended then
            let (frames, rest) := takeFrames (frameBound s.buffer) s.buffer
            (some { frames, closed := true, torn := rest },
              n.withStation { s with buffer := rest })
          else (none, n)
  await probe endless n

/-- A switch waits until the controller has ended its writing. -/
def awaitHangUp (n : Network) (s : Station) : Option Unit × Network :=
  n.until_ fun n => n.hungUp s.line

/-- A switch closes its connection. -/
def drop (n : Network) (s : Station) : Network :=
  (n.act (.leave s.line)).withStation { s with dropped := true }

/-! ### The handler and the harness -/

/-- The harness, if the handler is one. -/
def harness? (n : Network) : Option Harness :=
  match n.state.handler with
  | .harness h => some h
  | .observer _ => none

/-- What the handler has let the outside know: sightings, or the reports of a harness. -/
inductive News
  | sighting (s : Sighting)
  | report (r : Result Reference)

/-- All news so far, the oldest first. A harness reports results only, and news that say that a
switch is gone may be left out. -/
def news (n : Network) (readyOnly : Bool) : List News :=
  match n.harness? with
  | some h =>
    match h.reports with
    | .queued results => results.map .report
    | _ => []
  | none =>
    (n.sightings.reverse.filter fun s =>
      match s with
      | .ready _ => true
      | .disconnected _ => !readyOnly).map .sighting

/-- Waits for the next news. -/
def nextNews (n : Network) (readyOnly : Bool) : Option News × Network :=
  let probe (n : Network) : Option News × Network :=
    match (n.news readyOnly)[n.consumed]? with
    | some news => (some news, { n with consumed := n.consumed + 1 })
    | none => (none, n)
  await probe endless n

/-- The news not consumed. -/
def leftNews (n : Network) (readyOnly : Bool) : List News := (n.news readyOnly).drop n.consumed

/-- Waits until the send to be held back is reached. -/
def awaitHold (n : Network) : Option Unit × Network :=
  n.until_ fun n => (List.range n.state.lines.length).any n.isHeld

/-- Lets the send that is held back go on. -/
def release (n : Network) : Network := { n with hold := none }

/-! ### Calls from outside -/

/-- Makes a call from outside, which goes on before the tasks of the controller do, and waits for
its answer. -/
def ask (n : Network) (request : Outside) : Option Caller × Network :=
  let k := n.state.callers.length
  let probe (n : Network) : Option Caller × Network :=
    match n.state.callers[k]? with
    | some (.sent xid) => (some (.sent xid), n)
    | some (.failed f) => (some (.failed f), n)
    | some .closed => (some .closed, n)
    | _ => (none, n)
  await probe endless (Schedule.turn step? Schedule.patience (n.act (.call request)) (.caller k)).1

/-! ### The end -/

/-- The warnings so far, the oldest first. -/
def warnings (n : Network) : List LogRecord :=
  (n.notices.reverse.map Notice.record).filter fun r => r.level = .warn

/-- Whether the controller has ended its run. -/
def runFinished (n : Network) : Bool := n.state.acceptor = .stopped

/-- Runs until no task can go on without the clock. -/
def settled (n : Network) : Network := Schedule.settle step? Network.state endless n

/-- Lets each switch that has not dropped its connection end its sending and receive the rest, in
turn, and gives what each received. -/
def drainAll (n : Network) : List (String × Option Received) × Network :=
  n.stations.foldl
    (fun (out, n) s =>
      if s.dropped then (out, n)
      else
        let (r, n) := (n.act (.endSending s.line)).receive s none
        (out ++ [(s.name, r)], n))
    ([], n)

/-- Asks the controller to stop and waits for the end of its run. -/
def finish (n : Network) : Option Unit × Network :=
  (n.act .stop).until_ runFinished

end Network

end FlowBurst.Simulation
