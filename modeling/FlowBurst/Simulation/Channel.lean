import FlowBurst.Controller.Settings
import FlowBurst.Simulation.Fault
import FlowBurst.Transport.Listener

/-!
# Two ends of a connection

A connection with a channel at each end, a spare listener, and a clock that moves on when nothing
else can happen. Calls are carried out to their end, several at a time if need be.
-/

namespace FlowBurst.Simulation

open FlowBurst.Controller (SocketOptions)
open FlowBurst.Transport

/-- The limits of a call, from the moment at which it is made. -/
structure Patience where
  /-- After how long the deadline passes. -/
  timeout : Option Nat := none
  /-- After how long the cancellation flag is raised. -/
  raisedAfter : Option Nat := none
  deriving DecidableEq, Repr

/-- The two ends, the spare listener and the clock. -/
structure Bench where
  link : Link
  clientLocks : Locks Nat := {}
  serverLocks : Locks Nat := {}
  clientOptions : SocketOptions := {}
  serverOptions : SocketOptions := {}
  /-- How many connections wait at the spare listener. -/
  waiting : Nat := 0
  faults : List Fault := []
  now : Nat := 0

/-- A call under way at one end. -/
structure BenchCall where
  who : Nat
  side : Side
  call : Call
  answer : Option (Except Failure Reply) := none

namespace Bench

/-- The limits of a call that is made now. -/
def limits (b : Bench) (p : Patience) : Limits := { deadline := p.timeout.map (b.now + ·) }

/-- What a call made at `start` sees now. -/
def moment (b : Bench) (p : Patience) (start : Nat) : Moment :=
  { now := b.now
    cancelled := match p.raisedAfter with
      | some n => start + n ≤ b.now
      | none => false }

/-- The locks of an end. -/
def locks (b : Bench) : Side → Locks Nat
  | .client => b.clientLocks
  | .server => b.serverLocks

/-- The bench with the locks of an end replaced. -/
def withLocks (b : Bench) : Side → Locks Nat → Bench
  | .client, l => { b with clientLocks := l }
  | .server, l => { b with serverLocks := l }

/-- A poll of a call, if it changes anything. -/
def poll? (b : Bench) (m : Moment) (c : BenchCall) : Option (BenchCall × Bench) :=
  if c.answer.isSome then none
  else
    let polled := Fault.meet
      (fun d => c.call.poll? m c.side c.who d b.link (b.locks c.side)) b.faults
    polled.map fun (p, faults) =>
      let b := { b.withLocks c.side p.locks with link := p.link, faults }
      match p.progress with
      | .pending call => ({ c with call }, b)
      | .ready answer => ({ c with answer := some answer }, b)

/-- One poll of each call that it changes, in turn, and whether there was one. -/
def pollAll (m : Bench → Moment) : Bench → List BenchCall → List BenchCall × Bench × Bool
  | b, [] => ([], b, false)
  | b, c :: cs =>
    match b.poll? (m b) c with
    | some (c, b) =>
      let (cs, b, _) := pollAll m b cs
      (c :: cs, b, true)
    | none =>
      let (cs, b, changed) := pollAll m b cs
      (c :: cs, b, changed)

/-- The next time at which a limit of a call made at `start` takes effect. -/
def nextAlarm (b : Bench) (p : Patience) (start : Nat) : Option Nat :=
  let times := [p.timeout.map (start + ·), p.raisedAfter.map (start + ·)].filterMap id
  (times.filter (b.now < ·)).min?

/-- Carries calls out, in at most `fuel` rounds, until all have their answers or nothing is left
that could happen. -/
def carryOut (p : Patience) (start : Nat) : Nat → Bench → List BenchCall → List BenchCall × Bench
  | 0, b, cs => (cs, b)
  | fuel + 1, b, cs =>
    if cs.all fun c => c.answer.isSome then (cs, b)
    else
      let (cs, b, changed) := pollAll (fun b => b.moment p start) b cs
      if changed then carryOut p start fuel b cs
      else
        match b.nextAlarm p start with
        | some t => carryOut p start fuel { b with now := t } cs
        | none => (cs, b)

/-- How many rounds suffice for calls that move `n` bytes. -/
def rounds (n : Nat) : Nat := 4 * n + 100

/-- Carries one call out. -/
def one (b : Bench) (p : Patience) (side : Side) (call : Call) (size : Nat) :
    Option (Except Failure Reply) × Bench :=
  let (cs, b) := carryOut p b.now (rounds size) b [{ who := 0, side, call }]
  (cs.head?.bind BenchCall.answer, b)

/-- Writes bytes at an end. -/
def write (b : Bench) (p : Patience) (side : Side) (bytes : List UInt8) :
    Option (Except Failure Reply) × Bench :=
  b.one p side (.write (b.limits p) bytes) bytes.length

/-- Shuts an end down. -/
def shutdown (b : Bench) (p : Patience) (side : Side) (direction : Direction) :
    Option (Except Failure Reply) × Bench :=
  b.one p side (.shutdown (b.limits p) direction) 1

/-- What reading gave: the bytes, and whether the stream ended or reading failed. -/
structure ReadResult where
  data : List UInt8 := []
  ended : Bool := false
  failure : Option Failure := none

/-- Reads on at an end, in at most `fuel` further calls with the given limits, until `n` more bytes
have come. -/
def readOn (p : Patience) (start : Nat) (limits : Limits) (side : Side) :
    Nat → Bench → Nat → ReadResult → ReadResult × Bench
  | 0, b, _, r => (r, b)
  | fuel + 1, b, n, r =>
    if n = 0 then (r, b)
    else
      let (cs, b) := carryOut p start (rounds n) b [{ who := 0, side, call := .read limits n }]
      match cs.head?.bind BenchCall.answer with
      | some (.ok (.data [])) => ({ r with ended := true }, b)
      | some (.ok (.data bytes)) =>
        readOn p start limits side fuel b (n - bytes.length) { r with data := r.data ++ bytes }
      | some (.error f) => ({ r with failure := some f }, b)
      | _ => (r, b)

/-- Reads at an end until `n` bytes have come, the stream ends or reading fails. -/
def read (b : Bench) (p : Patience) (side : Side) (n : Nat) : ReadResult × Bench :=
  readOn p b.now (b.limits p) side n b n {}

/-- Goes on with a read of `n` bytes whose first call has the given answer. -/
def afterFirst (b : Bench) (side : Side) (n : Nat) (answer : Option (Except Failure Reply)) :
    ReadResult × Bench :=
  match answer with
  | some (.ok (.data [])) => ({ ended := true }, b)
  | some (.ok (.data bytes)) =>
    readOn {} b.now {} side n b (n - bytes.length) { data := bytes }
  | some (.error f) => ({ failure := some f }, b)
  | _ => ({}, b)

/-- Shuts an end down in both directions while a read of eight bytes waits there. -/
def shutdownDuringRead (b : Bench) (side : Side) :
    Option (Except Failure Reply) × ReadResult × Bench :=
  let (cs, b) := carryOut {} b.now (rounds 8) b
    [{ who := 0, side, call := .read {} 8 }, { who := 1, side, call := .shutdown {} .both }]
  let (r, b) := b.afterFirst side 8 (cs[0]?.bind BenchCall.answer)
  (cs[1]?.bind BenchCall.answer, r, b)

/-- Writes at an end, and then at the other, while a read of `n` bytes waits at the first. -/
def writeDuringRead (b : Bench) (side : Side) (n : Nat) (bytes reply : List UInt8) :
    Option (Except Failure Reply) × Option (Except Failure Reply) × ReadResult × Bench :=
  let (cs, b) := carryOut {} b.now (rounds (bytes.length + reply.length)) b
    [{ who := 0, side, call := .read {} n }, { who := 1, side, call := .write {} bytes },
     { who := 2, side := side.other, call := .write {} reply }]
  let (r, b) := b.afterFirst side n (cs[0]?.bind BenchCall.answer)
  (cs[1]?.bind BenchCall.answer, cs[2]?.bind BenchCall.answer, r, b)

/-- An end goes away. -/
def drop (b : Bench) (side : Side) : Bench := { b with link := b.link.close side }

/-- Adds a fault. -/
def inject (b : Bench) (f : Fault) : Bench := { b with faults := b.faults ++ [f] }

/-- Accepts at the spare listener, waiting until a limit takes effect if nobody is there. -/
def accept (b : Bench) (p : Patience) : Option (Except Failure Unit) × Bench :=
  let limits := b.limits p
  let start := b.now
  let poll (b : Bench) (started : Bool) : Option (Accepting × List Fault) :=
    Fault.meet (pollAccept? (b.moment p start) limits started (0 < b.waiting)) b.faults
  let answered (b : Bench) : Option (Accepting × List Fault) → Option (Except Failure Unit) × Bench
    | some (.accepted, faults) => (some (.ok ()), { b with waiting := b.waiting - 1, faults })
    | some (.failed f lost, faults) =>
      (some (.error f), { b with waiting := if lost then b.waiting - 1 else b.waiting, faults })
    | _ => (none, b)
  match poll b false with
  | some (.pending, _) =>
    match b.nextAlarm p start with
    | some t =>
      let b := { b with now := t }
      answered b (poll b true)
    | none => (none, b)
  | answer => answered b answer

/-- Connects to the spare listener, or where nobody listens. -/
def connect (b : Bench) (p : Patience) (listening : Bool) : Option (Except Failure Unit) × Bench :=
  let deed := connect? (b.moment p b.now) (b.limits p) listening
  match Fault.meet deed b.faults with
  | some ((answer, seen), faults) =>
    (some answer, { b with faults, waiting := if seen then b.waiting + 1 else b.waiting })
  | none => (none, b)

/-- Connects to the spare listener and accepts there. Says whether the connection that was accepted
is the one that was made. -/
def pair (b : Bench) (p : Patience) : Option (Except Failure Bool) × Bench :=
  let own := b.waiting = 0
  match b.connect p true with
  | (none, b) => (none, b)
  | (some made, b) =>
    let (taken, b) := b.accept p
    (taken.map fun taken => made.bind fun _ => taken.map fun _ => own, b)

/-- Binds a listener. -/
def bind (b : Bench) (a : Address) (inUse : Bool) : Option (Except Failure Unit) × Bench :=
  match Fault.meet (bind? a inUse) b.faults with
  | some (answer, faults) => (some answer, { b with faults })
  | none => (none, b)

end Bench

end FlowBurst.Simulation
