/-!
# Failures of the operating system

The errors that calls on sockets may give, with their numbers and texts.
-/

namespace FlowBurst.Transport

/-- A failure that the operating system reports by number. -/
inductive OsError
  | interrupted
  | inputOutput
  | badDescriptor
  | wouldBlock
  | permissionDenied
  | invalidArgument
  | fileTableFull
  | tooManyFiles
  | storageFull
  | brokenPipe
  | addressInUse
  | addressNotAvailable
  | networkUnreachable
  | connectionAborted
  | connectionReset
  | notConnected
  | timedOut
  | connectionRefused
  | hostUnreachable
  deriving DecidableEq, Repr

namespace OsError

/-- The number of an error. -/
def number : OsError → Nat
  | interrupted => 4
  | inputOutput => 5
  | badDescriptor => 9
  | wouldBlock => 11
  | permissionDenied => 13
  | invalidArgument => 22
  | fileTableFull => 23
  | tooManyFiles => 24
  | storageFull => 28
  | brokenPipe => 32
  | addressInUse => 98
  | addressNotAvailable => 99
  | networkUnreachable => 101
  | connectionAborted => 103
  | connectionReset => 104
  | notConnected => 107
  | timedOut => 110
  | connectionRefused => 111
  | hostUnreachable => 113

/-- Every error. -/
def all : List OsError :=
  [interrupted, inputOutput, badDescriptor, wouldBlock, permissionDenied, invalidArgument,
   fileTableFull, tooManyFiles, storageFull, brokenPipe, addressInUse, addressNotAvailable,
   networkUnreachable, connectionAborted, connectionReset, notConnected, timedOut,
   connectionRefused, hostUnreachable]

/-- The error of a number. -/
def ofNumber? (n : Nat) : Option OsError := all.find? fun e => e.number == n

/-- What an error says, without its number. -/
def description : OsError → String
  | interrupted => "Interrupted system call"
  | inputOutput => "Input/output error"
  | badDescriptor => "Bad file descriptor"
  | wouldBlock => "Resource temporarily unavailable"
  | permissionDenied => "Permission denied"
  | invalidArgument => "Invalid argument"
  | fileTableFull => "Too many open files in system"
  | tooManyFiles => "Too many open files"
  | storageFull => "No space left on device"
  | brokenPipe => "Broken pipe"
  | addressInUse => "Address already in use"
  | addressNotAvailable => "Cannot assign requested address"
  | networkUnreachable => "Network is unreachable"
  | connectionAborted => "Software caused connection abort"
  | connectionReset => "Connection reset by peer"
  | notConnected => "Transport endpoint is not connected"
  | timedOut => "Connection timed out"
  | connectionRefused => "Connection refused"
  | hostUnreachable => "No route to host"

/-- The text of an error. -/
def text (e : OsError) : String := e.description ++ " (os error " ++ toString e.number ++ ")"

end OsError

end FlowBurst.Transport
