import FlowBurst.OpenFlow.Bytes
import FlowBurst.OpenFlow.FrameError

/-!
# OpenFlow 1.3 messages

The messages of a control channel and their bodies, that is, what follows the eight bytes of a
header. A message of a type that is not modelled keeps its type and body, so that one unknown
message never breaks a connection. Bodies of a fixed layout may carry surplus bytes, which reading
drops, as it drops padding and reserved bytes; a body shorter than its fixed part is refused.
-/

namespace FlowBurst.OpenFlow

/-- The message types whose bodies are understood. -/
inductive MessageType
  | hello
  | error
  | echoRequest
  | echoReply
  | featuresRequest
  | featuresReply
  | getConfigRequest
  | getConfigReply
  | setConfig
  | barrierRequest
  | barrierReply
  deriving DecidableEq, Repr

namespace MessageType

/-- The number of a type in the header of a frame. -/
def code : MessageType → UInt8
  | hello => 0
  | error => 1
  | echoRequest => 2
  | echoReply => 3
  | featuresRequest => 5
  | featuresReply => 6
  | getConfigRequest => 7
  | getConfigReply => 8
  | setConfig => 9
  | barrierRequest => 20
  | barrierReply => 21

/-- The type of a number, if it is a known one. -/
def ofCode? (code : UInt8) : Option MessageType :=
  match code.toNat with
  | 0 => some hello
  | 1 => some error
  | 2 => some echoRequest
  | 3 => some echoReply
  | 5 => some featuresRequest
  | 6 => some featuresReply
  | 7 => some getConfigRequest
  | 8 => some getConfigReply
  | 9 => some setConfig
  | 20 => some barrierRequest
  | 21 => some barrierReply
  | _ => none

/-- The name of a type. -/
def name : MessageType → String
  | hello => "hello"
  | error => "error"
  | echoRequest => "echo_request"
  | echoReply => "echo_reply"
  | featuresRequest => "features_request"
  | featuresReply => "features_reply"
  | getConfigRequest => "get_config_request"
  | getConfigReply => "get_config_reply"
  | setConfig => "set_config"
  | barrierRequest => "barrier_request"
  | barrierReply => "barrier_reply"

/-- The length of the fixed part of a body, below which the body is refused. -/
def fixedLength : MessageType → Nat
  | error => 4
  | featuresReply => 24
  | getConfigReply => 4
  | setConfig => 4
  | _ => 0

@[simp] theorem ofCode?_code (t : MessageType) : ofCode? t.code = some t := by
  cases t <;> rfl

theorem code_of_ofCode? {c : UInt8} {t : MessageType} (h : ofCode? c = some t) : t.code = c := by
  apply UInt8.toNat_inj.1
  unfold ofCode? at h
  split at h <;> simp_all [code] <;> subst h <;> simp [*]

end MessageType

/-- The body of SET_CONFIG and GET_CONFIG_REPLY. The default handles fragments normally and sends
128 bytes of a packet that no flow matches to the controller. -/
structure SwitchConfig where
  flags : UInt16 := 0
  missSendLength : UInt16 := 128
  deriving DecidableEq, Repr, Inhabited

/-- The body of FEATURES_REPLY. Its padding and reserved bytes are written as zero. -/
structure Features where
  datapathId : UInt64
  buffers : UInt32
  tables : UInt8
  auxiliaryId : UInt8
  capabilities : UInt32
  deriving DecidableEq, Repr, Inhabited

/-- The body of ERROR. -/
structure ErrorReport where
  type : UInt16
  code : UInt16
  data : List UInt8
  deriving DecidableEq, Repr, Inhabited

/-- A refused handshake: the two sides have no protocol version in common. -/
def ErrorReport.helloIncompatible (detail : String) : ErrorReport :=
  { type := 0, code := 0, data := detail.toUTF8.toList }

/-- A message of the control channel. -/
inductive Message
  | hello (elements : List UInt8)
  | error (report : ErrorReport)
  | echoRequest (payload : List UInt8)
  | echoReply (payload : List UInt8)
  | featuresRequest
  | featuresReply (features : Features)
  | getConfigRequest
  | getConfigReply (config : SwitchConfig)
  | setConfig (config : SwitchConfig)
  | barrierRequest
  | barrierReply
  | unsupported (type : UInt8) (body : List UInt8)
  deriving DecidableEq, Repr

namespace Message

/-- The type of a message, if its body is understood. -/
def type? : Message → Option MessageType
  | hello _ => some .hello
  | error _ => some .error
  | echoRequest _ => some .echoRequest
  | echoReply _ => some .echoReply
  | featuresRequest => some .featuresRequest
  | featuresReply _ => some .featuresReply
  | getConfigRequest => some .getConfigRequest
  | getConfigReply _ => some .getConfigReply
  | setConfig _ => some .setConfig
  | barrierRequest => some .barrierRequest
  | barrierReply => some .barrierReply
  | unsupported _ _ => none

/-- The type number in the header of a frame that carries the message. -/
def typeCode : Message → UInt8
  | hello _ => MessageType.hello.code
  | error _ => MessageType.error.code
  | echoRequest _ => MessageType.echoRequest.code
  | echoReply _ => MessageType.echoReply.code
  | featuresRequest => MessageType.featuresRequest.code
  | featuresReply _ => MessageType.featuresReply.code
  | getConfigRequest => MessageType.getConfigRequest.code
  | getConfigReply _ => MessageType.getConfigReply.code
  | setConfig _ => MessageType.setConfig.code
  | barrierRequest => MessageType.barrierRequest.code
  | barrierReply => MessageType.barrierReply.code
  | unsupported type _ => type

/-- The name of a message in logs. -/
def name (m : Message) : String :=
  match m.type? with
  | some t => t.name
  | none => "unsupported"

/-- The length of the body of a message. -/
def bodyLength : Message → Nat
  | hello data | echoRequest data | echoReply data => data.length
  | error report => 4 + report.data.length
  | featuresReply _ => 24
  | getConfigReply _ | setConfig _ => 4
  | featuresRequest | getConfigRequest | barrierRequest | barrierReply => 0
  | unsupported _ body => body.length

end Message

/-- The four bytes of a switch configuration. -/
def SwitchConfig.body (c : SwitchConfig) : List UInt8 :=
  bigEndian 2 c.flags.toNat ++ bigEndian 2 c.missSendLength.toNat

/-- The twenty-four bytes of a features reply. -/
def Features.body (f : Features) : List UInt8 :=
  bigEndian 8 f.datapathId.toNat ++ bigEndian 4 f.buffers.toNat ++ [f.tables, f.auxiliaryId]
    ++ bigEndian 2 0 ++ bigEndian 4 f.capabilities.toNat ++ bigEndian 4 0

/-- The bytes of an error report: its fixed part, then the data. -/
def ErrorReport.body (e : ErrorReport) : List UInt8 :=
  bigEndian 2 e.type.toNat ++ bigEndian 2 e.code.toNat ++ e.data

/-- The switch configuration at the start of a body. -/
def SwitchConfig.ofBody (body : List UInt8) : SwitchConfig :=
  { flags := (field body 0 2).toUInt16, missSendLength := (field body 2 2).toUInt16 }

/-- The features at the start of a body. -/
def Features.ofBody (body : List UInt8) : Features :=
  { datapathId := (field body 0 8).toUInt64
    buffers := (field body 8 4).toUInt32
    tables := (field body 12 1).toUInt8
    auxiliaryId := (field body 13 1).toUInt8
    capabilities := (field body 16 4).toUInt32 }

/-- The error report that a body holds: all after the fixed part is data. -/
def ErrorReport.ofBody (body : List UInt8) : ErrorReport :=
  { type := (field body 0 2).toUInt16, code := (field body 2 2).toUInt16, data := body.drop 4 }

namespace Message

/-- The body of a message. -/
def body : Message → List UInt8
  | hello data | echoRequest data | echoReply data => data
  | error report => report.body
  | featuresReply features => features.body
  | getConfigReply config | setConfig config => config.body
  | featuresRequest | getConfigRequest | barrierRequest | barrierReply => []
  | unsupported _ body => body

/-- The message of a known type whose fixed part is present in `body`. -/
def ofFixed (t : MessageType) (body : List UInt8) : Message :=
  match t with
  | .hello => hello body
  | .error => error (.ofBody body)
  | .echoRequest => echoRequest body
  | .echoReply => echoReply body
  | .featuresRequest => featuresRequest
  | .featuresReply => featuresReply (.ofBody body)
  | .getConfigRequest => getConfigRequest
  | .getConfigReply => getConfigReply (.ofBody body)
  | .setConfig => setConfig (.ofBody body)
  | .barrierRequest => barrierRequest
  | .barrierReply => barrierReply

/-- Reads the body of a message with the given type number. -/
def ofBody (type : UInt8) (body : List UInt8) : Except FrameError Message :=
  match MessageType.ofCode? type with
  | none => .ok (unsupported type body)
  | some t =>
    if body.length < t.fixedLength then .error (.bodyTooShort type t.fixedLength body.length)
    else .ok (ofFixed t body)

/-- The length of a body is what is written for it. -/
theorem length_body (m : Message) : m.body.length = m.bodyLength := by
  cases m <;>
    simp +arith [body, bodyLength, SwitchConfig.body, Features.body, ErrorReport.body]

end Message

end FlowBurst.OpenFlow
