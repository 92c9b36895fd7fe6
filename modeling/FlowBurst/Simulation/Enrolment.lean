import FlowBurst.Simulation.Network

/-!
# Connections that are registered by hand

A registry with connections behind its handles and no controller that serves them. Messages are sent
over them by the same calls from outside as over those of a controller.
-/

namespace FlowBurst.Simulation.Network

open FlowBurst.Controller
open FlowBurst.Switch (DatapathId Handle Reference)

/-- An empty registry whose sends have a limit of time. -/
def unattended (sendTimeout : Option Nat) (capacity : Nat) : Network :=
  { state :=
      { settings := { sendTimeout }, handler := .observer [], capacity, acceptor := .stopped } }

/-- The station of a connection number, the latest first. -/
def numbered? (n : Network) (number : UInt64) : Option Station :=
  n.station? (toString number.toNat)

/-- The handle of the connection of a station. -/
def handle? (n : Network) (s : Station) : Option Handle := do
  let c ← n.state.connection? s.line
  let datapath ← c.session.datapath
  return { switch := ⟨datapath, c.session.connection⟩, channel := s.line }

/-- Registers a new connection of a switch, and gives the handle that it replaces. An earlier
connection of the same number loses its switch. -/
def enrol (n : Network) (switch : Reference) : Option Handle × Network :=
  let n := ((n.numbered? switch.connection).map n.drop).getD n
  let line := n.state.lines.length
  let peer := addressOf line
  let session : Switch.Session :=
    { connection := switch.connection, peer, datapath := some switch.datapath, state := .ready }
  let (previous, registry) := n.state.registry.register { switch, channel := line }
  let lines := n.state.lines ++
    [{ link := { capacity := n.state.capacity }, peer
       connection := some { session, stage := .ended } }]
  let station : Station := { name := toString switch.connection.toNat, line }
  (previous,
    { n with state := { n.state with registry, lines }, stations := n.stations ++ [station] })

/-- Takes a connection out of the registry, if it holds its entry. -/
def expel (n : Network) (switch : Reference) : Bool × Network :=
  let (removed, registry) := n.state.registry.deregister switch
  (removed, { n with state := { n.state with registry } })

end FlowBurst.Simulation.Network
