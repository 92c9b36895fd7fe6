import FlowBurst.Text.Hex

/-!
# Names of switches and connections

A switch is known by its datapath id, a number of 64 bits that it reports in the handshake. A
connection number tells apart the successive connections of one switch. The text of a datapath id is
`0x` and sixteen hexadecimal digits; the text of a reference to a switch over one connection appends
`#` and the connection number.
-/

namespace FlowBurst.Switch

/-- The identity that a switch reports for its datapath. -/
structure DatapathId where
  value : UInt64
  deriving DecidableEq, Repr, Inhabited

/-- The text of a datapath id. -/
def DatapathId.text (d : DatapathId) : String := Text.hex 16 d.value.toNat

/-- The numeric order of datapath ids. -/
def DatapathId.compare (d e : DatapathId) : Ordering := Ord.compare d.value.toNat e.value.toNat

/-- A switch as reached over one connection. -/
structure Reference where
  datapath : DatapathId
  connection : UInt64
  deriving DecidableEq, Repr, Inhabited

/-- The text of a reference. -/
def Reference.text (r : Reference) : String :=
  r.datapath.text ++ "#" ++ toString r.connection.toNat

end FlowBurst.Switch
