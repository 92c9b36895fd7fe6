import FlowBurst.Program
import FlowBurst.Serving
import Std.Async.Signal
import Std.Async.TCP
import Std.Async.Timer
import Std.Sync.Channel

/-!
# The program

Runs the controller on sockets of the operating system: each errand that the controller hands out is
done in the background, and what comes of it is reported as an arrival.
-/

namespace FlowBurst

open Std.Async
open FlowBurst.Transport (Address OsError)

/-- Where arrivals wait to be taken note of. -/
abbrev Mailbox := Std.Channel Arrival

/-! ### Between the system and the library -/

/-- The number by which the system knows an error. -/
def errorNumber : IO.Error → Nat
  | .alreadyExists _ n _ | .otherError n _ | .resourceBusy n _ | .resourceVanished n _
  | .unsupportedOperation n _ | .hardwareFault n _ | .unsatisfiedConstraints n _
  | .illegalOperation n _ | .protocolError n _ | .timeExpired n _ | .interrupted _ n _
  | .noFileOrDirectory _ n _ | .invalidArgument _ n _ | .permissionDenied _ n _
  | .resourceExhausted _ n _ | .inappropriateType _ n _ | .noSuchThing _ n _ =>
    if n.toNat < Nat.pow 2 31 then n.toNat else Nat.pow 2 32 - n.toNat
  | .unexpectedEof | .userError _ => 0

/-- The failure of binding. -/
def bindFailure (e : IO.Error) : Switch.Failure :=
  .transport <|
    match OsError.ofNumber? (errorNumber e) with
    | some error => .system .bind error
    | none => ⟨.bind, .io (.described .other (toString e))⟩

/-- The address of a socket. -/
def Transport.Address.toSocket : Address → Std.Net.SocketAddress
  | .v4 octets port => .v4 ⟨⟨octets⟩, port⟩
  | .v6 groups _ port => .v6 ⟨⟨groups⟩, port⟩

/-- The address of a socket. -/
def Transport.Address.ofSocket : Std.Net.SocketAddress → Address
  | .v4 a => .v4 a.addr.octets a.port
  | .v6 a => .v6 a.addr.segments 0 a.port

/-- What is found at a path. -/
def readFile (path : String) : IO FileContent := do
  try
    return .bytes (← IO.FS.readBinFile path)
  catch
    | .noFileOrDirectory _ _ _ => return .missing
    | .inappropriateType _ _ _ => return .directory
    | e => return .barred (toString e)

/-! ### Errands -/

/-- Does something in the background and reports what comes of it. -/
def report (mail : Mailbox) (failed : IO.Error → Arrival) (work : Async Arrival) : IO Unit := do
  let task ← work.toIO
  discard <| IO.mapTask (t := task) fun
    | .ok arrival => discard <| mail.send arrival
    | .error e => discard <| mail.send (failed e)

/-- The sockets of the program. -/
structure Sockets where
  listener : TCP.Socket.Server
  clients : Array TCP.Socket.Client := #[]

/-- How long a background task sleeps at once, in milliseconds. -/
def longestSleep : Nat := 3600000

/-- Begins an errand. An accepted connection is handed to `keep`. -/
def begin (mail : Mailbox) (p : Plan) (started : Nat) (sockets : Sockets)
    (keep : TCP.Socket.Client → BaseIO Unit) : Errand → IO Unit
  | .accept =>
    let failed e := .acceptFailed ((OsError.ofNumber? (errorNumber e)).getD .inputOutput)
    report mail failed do
      let client ← sockets.listener.accept
      if p.controller.noDelay then client.noDelay
      let peer ← client.getPeerName
      keep client
      return .connected (.ofSocket peer)
  | .read i =>
    match sockets.clients[i]? with
    | some client =>
      report mail (fun _ => .broken i) do
        let bytes ← client.recv? Controller.readChunk.toUInt64
        return .read i (bytes.getD .empty).toList
    | none => return
  | .send i bytes =>
    match sockets.clients[i]? with
    | some client =>
      report mail (fun _ => .broken i) do
        client.send ⟨bytes.toArray⟩
        return .sent i
    | none => return
  | .endSending i =>
    match sockets.clients[i]? with
    | some client =>
      report mail (fun _ => .tick) do
        client.shutdown
        return .tick
    | none => return
  | .wake time => do
    let now := (← IO.monoMsNow) - started
    report mail (fun _ => .tick) do
      sleep (.ofNat (min (time - now + 1) longestSleep))
      return .tick
  | .report record => IO.println record.line

/-- Serves until the controller has stopped. Says whether a failed burst stopped it. -/
partial def serve (mail : Mailbox) (p : Plan) (started : Nat) (sockets : Sockets)
    (accepted : IO.Ref (Array TCP.Socket.Client)) (v : Serving) : IO Bool := do
  let (v, errands) := v.respond ((← IO.monoMsNow) - started)
  let sockets := { sockets with clients := ← accepted.get }
  for errand in errands do
    begin mail p started sockets (fun client => accepted.modify (·.push client)) errand
  if v.isOver then return v.stoppedOnFailure
  let arrival ← mail.sync.recv
  serve mail p started sockets accepted (v.arrive arrival)

/-- Reports an interrupt by the user. -/
def listenForInterrupt (mail : Mailbox) : IO Unit := do
  try
    let waiter ← Signal.Waiter.mk .sigint false
    let task ← waiter.wait
    discard <| IO.mapTask (t := task) fun
      | .ok _ => discard <| mail.send .interrupt
      | .error e => discard <| mail.send (.deaf (toString e))
  catch e => discard <| mail.send (.deaf (toString e))

/-- A listening socket at the address of a plan. -/
def listen (p : Plan) : IO TCP.Socket.Server := do
  let listener ← TCP.Socket.Server.mk
  listener.bind p.controller.listen.toSocket
  listener.listen 1024
  return listener

/-- Runs a plan. -/
def runPlan (p : Plan) : IO Outcome := do
  match ← (listen p).toBaseIO with
  | .error e => return .notStarted (.binding (bindFailure e))
  | .ok listener =>
    IO.println (p.readyRecord (.ofSocket (← listener.getSockName))).line
    let mail : Mailbox ← Std.Channel.new
    listenForInterrupt mail
    let accepted ← IO.mkRef #[]
    return .ran (← serve mail p (← IO.monoMsNow) { listener } accepted (.start p))

/-- Runs the program with the given arguments. -/
def runProgram (args : List String) : IO Outcome := do
  match CommandLine.parse args with
  | .error e => return .usage e
  | .ok c =>
    let content ← match c.config with
      | some path => readFile path
      | none => pure .missing
    match c.plan fun _ => content with
    | .error e => return .notStarted (.loading e)
    | .ok p => runPlan p

end FlowBurst

/-- Runs the program and exits as its outcome says. -/
def main (args : List String) : IO UInt32 := do
  let outcome ← FlowBurst.runProgram args
  for line in outcome.lines do
    if outcome.isAnswer then IO.println line else IO.eprintln line
  return outcome.exitCode.toUInt32
