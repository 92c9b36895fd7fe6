import FlowBurst.OpenFlow.Message
import FlowBurst.Text.Blank

/-!
# Kinds of burst messages

The messages that a burst may repeat, their names, and the names that are read as one: white space
around a name and the case of its ASCII letters do not matter.
-/

namespace FlowBurst.Burst

/-- The kind of the messages of a burst. -/
inductive Kind
  | setConfig
  | hello
  | echoRequest
  | featuresRequest
  | getConfigRequest
  | barrierRequest
  deriving DecidableEq, Repr, Inhabited

namespace Kind

/-- Every kind, the default first. -/
def all : List Kind :=
  [setConfig, hello, echoRequest, featuresRequest, getConfigRequest, barrierRequest]

/-- The name of a kind. -/
def name : Kind → String
  | setConfig => "set-config"
  | hello => "hello"
  | echoRequest => "echo-request"
  | featuresRequest => "features-request"
  | getConfigRequest => "get-config-request"
  | barrierRequest => "barrier-request"

/-- The kind of exactly the given name. -/
def ofName? (s : String) : Option Kind := all.find? fun k => k.name == s

/-- A character with an ASCII capital replaced by its small letter. -/
def lower (c : Char) : Char :=
  if 65 ≤ c.toNat ∧ c.toNat ≤ 90 then Char.ofNat (c.toNat + 32) else c

/-- The kind that a text names. -/
def ofText? (s : String) : Option Kind :=
  all.find? fun k => k.name.toList == (Text.trim s.toList).map lower

/-- The message of a kind, built anew for each send. -/
def message : Kind → OpenFlow.Message
  | setConfig => .setConfig {}
  | hello => .hello []
  | echoRequest => .echoRequest []
  | featuresRequest => .featuresRequest
  | getConfigRequest => .getConfigRequest
  | barrierRequest => .barrierRequest

end Kind

end FlowBurst.Burst
