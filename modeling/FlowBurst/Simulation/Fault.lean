import FlowBurst.Transport.Channel

/-!
# Injected faults

A fault makes the next of certain calls of the operating system fail, and is spent by that.
-/

namespace FlowBurst.Simulation

open FlowBurst.Transport (Disposition OsError SystemCall)

/-- A fault that is still to strike one of the given calls, on one line if it names one. -/
structure Fault where
  calls : List SystemCall
  error : OsError
  line : Option Nat := none
  deriving DecidableEq, Repr

namespace Fault

/-- Every call, those of one operation in the order in which it makes them. -/
def order : List SystemCall :=
  [.bind, .listenerAddress, .accept, .connect, .localAddress, .peerAddress, .setNoDelay, .setLinger,
   .read, .write, .endWriting, .endReading]

/-- Whether a fault strikes a call on a line. -/
def strikes (f : Fault) (line : Option Nat) (call : SystemCall) : Bool :=
  f.calls.contains call && (f.line.isNone || f.line == line)

/-- More than any write moves. -/
def boundless : Nat := 4294967296

/-- Does something on a line with the first fault that strikes one of the given calls, if there is
one that the deed makes, and without a fault otherwise. Gives the faults that are left. -/
def meetAt {α : Type} (line : Option Nat) (deed : Disposition → Option α) (faults : List Fault) :
    List SystemCall → Option (α × List Fault)
  | [] => (deed (.proceed boundless)).map fun a => (a, faults)
  | call :: calls =>
    match faults.find? fun f => f.strikes line call with
    | none => meetAt line deed faults calls
    | some f =>
      match deed (.fail call f.error) with
      | some a => some (a, faults.eraseP fun f => f.strikes line call)
      | none => meetAt line deed faults calls

/-- Does something that is not bound to a line, with the first fault that strikes it. -/
def meet {α : Type} (deed : Disposition → Option α) (faults : List Fault) :
    Option (α × List Fault) :=
  if faults.isEmpty then (deed (.proceed boundless)).map fun a => (a, faults)
  else meetAt none deed faults order

end Fault

end FlowBurst.Simulation
