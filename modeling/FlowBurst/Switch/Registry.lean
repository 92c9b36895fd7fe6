import FlowBurst.Switch.Failure

/-!
# The registry of connected switches

The registry holds, for each datapath, the handle of the connection over which its switch is
reached, in the order of the datapath ids. Registering a datapath again hands back the handle that
it replaces; only the connection that holds an entry can remove it.
-/

namespace FlowBurst.Switch

/-- The means to reach a switch: its connection by name, and the channel of that connection. -/
structure Handle where
  switch : Reference
  channel : Nat
  deriving DecidableEq, Repr, Inhabited

/-- The datapath of a handle. -/
abbrev Handle.datapath (h : Handle) : DatapathId := h.switch.datapath

/-- The handles of the connected switches, in the order of their datapath ids. -/
structure Registry where
  handles : List Handle := []
  deriving DecidableEq, Repr, Inhabited

/-- Whom a message is for: whoever is the switch of a datapath, or a switch over one connection
only. -/
inductive Target
  | datapath (d : DatapathId)
  | connection (r : Reference)
  deriving DecidableEq, Repr

namespace Registry

/-- The handle of a datapath. -/
def get? (g : Registry) (d : DatapathId) : Option Handle :=
  g.handles.find? fun h => h.datapath = d

/-- Whether a datapath is registered. -/
def contains (g : Registry) (d : DatapathId) : Bool := (g.get? d).isSome

/-- Puts a handle in its place among others, instead of one with the same datapath. -/
def insert (h : Handle) : List Handle → List Handle
  | [] => [h]
  | k :: ks =>
    if h.datapath.value < k.datapath.value then h :: k :: ks
    else if h.datapath = k.datapath then h :: ks
    else k :: insert h ks

/-- Registers a handle, and hands back the one that it replaces. -/
def register (g : Registry) (h : Handle) : Option Handle × Registry :=
  (g.get? h.datapath, { handles := insert h g.handles })

/-- Removes the entry of a datapath if it belongs to the given connection, and says whether it
did. -/
def deregister (g : Registry) (r : Reference) : Bool × Registry :=
  match g.get? r.datapath with
  | some h =>
    if h.switch = r then (true, { handles := g.handles.filter fun k => k.datapath ≠ r.datapath })
    else (false, g)
  | none => (false, g)

/-- The handle of a target. A connection that has been replaced is no longer reached. -/
def find (g : Registry) : Target → Except Failure Handle
  | .datapath d =>
    match g.get? d with
    | some h => .ok h
    | none => .error (.notConnected d)
  | .connection r =>
    match g.get? r.datapath with
    | some h => if h.switch = r then .ok h else .error (.connectionReplaced r)
    | none => .error (.notConnected r.datapath)

end Registry

end FlowBurst.Switch
