import FlowBurst.Transport.OsError

/-!
# Connections in memory

A connection is two independent ordered pipes of bytes, one in each direction. Each pipe holds a
bounded number of unread bytes. A write puts in what fits and has to wait when nothing fits; a read
takes what is there and has to wait when nothing is. Either side may end its writing, stop its
reading or close, and a reset ends both directions at once. `none` stands for an operation that has
to wait.
-/

namespace FlowBurst.Transport

/-- The two sides of a connection: the one that connected and the one that accepted. -/
inductive Side
  | client
  | server
  deriving DecidableEq, Repr

/-- The opposite side. -/
def Side.other : Side → Side
  | client => server
  | server => client

/-- One side of a connection. -/
structure Endpoint where
  /-- The bytes that have arrived and have not been read. -/
  arrived : List UInt8 := []
  /-- Whether the side reads no more. -/
  readingEnded : Bool := false
  /-- Whether the side writes no more. -/
  writingEnded : Bool := false
  /-- Whether the side is gone. -/
  closed : Bool := false
  deriving DecidableEq, Repr, Inhabited

/-- A connection. -/
structure Link where
  /-- How many unread bytes a pipe holds. -/
  capacity : Nat
  client : Endpoint := {}
  server : Endpoint := {}
  wasReset : Bool := false
  deriving DecidableEq, Repr, Inhabited

namespace Link

/-- The endpoint of a side. -/
def endpoint (l : Link) : Side → Endpoint
  | .client => l.client
  | .server => l.server

/-- The connection with the endpoint of a side replaced. -/
def withEndpoint (l : Link) : Side → Endpoint → Link
  | .client, e => { l with client := e }
  | .server, e => { l with server := e }

/-- How many bytes a side can put into its outgoing pipe. -/
def room (l : Link) (s : Side) : Nat := l.capacity - (l.endpoint s.other).arrived.length

/-- What a side reads, at most `size` bytes: nothing at all means the end of the stream. -/
def read? (l : Link) (s : Side) (size : Nat) : Option (Except OsError (List UInt8) × Link) :=
  let e := l.endpoint s
  if e.arrived ≠ [] then
    some (.ok (e.arrived.take size), l.withEndpoint s { e with arrived := e.arrived.drop size })
  else if l.wasReset then some (.error .connectionReset, l)
  else if e.readingEnded || (l.endpoint s.other).writingEnded then some (.ok [], l)
  else none

/-- Puts bytes into the outgoing pipe of a side: at least one, at most as many as fit, and otherwise
no more than `limit`. The answer is how many were put in. -/
def write? (l : Link) (s : Side) (bytes : List UInt8) (limit : Nat) :
    Option (Except OsError Nat × Link) :=
  let far := l.endpoint s.other
  if (l.endpoint s).writingEnded then some (.error .brokenPipe, l)
  else if l.wasReset then some (.error .connectionReset, l)
  else if far.closed then some (.error .brokenPipe, l)
  else
    let n := min (min (max limit 1) (l.room s)) bytes.length
    if n = 0 then none
    else some (.ok n, l.withEndpoint s.other { far with arrived := far.arrived ++ bytes.take n })

/-- A side ends its writing. -/
def endWriting (l : Link) (s : Side) : Link :=
  l.withEndpoint s { l.endpoint s with writingEnded := true }

/-- A side ends its reading, which fails once both directions have ended. -/
def endReading (l : Link) (s : Side) : Except OsError Link :=
  if l.wasReset || (l.client.writingEnded && l.server.writingEnded) then .error .notConnected
  else .ok (l.withEndpoint s { l.endpoint s with readingEnded := true })

/-- A side goes away. -/
def close (l : Link) (s : Side) : Link :=
  l.withEndpoint s { l.endpoint s with writingEnded := true, closed := true }

/-- The connection is reset. -/
def reset (l : Link) : Link := { l with wasReset := true }

end Link

end FlowBurst.Transport
