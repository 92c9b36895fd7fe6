import FlowBurst.Proofs.Framing

/-!
# Reading within the bytes present

Decoding reads numbers at offsets of a buffer and takes it apart at given lengths; where bytes are
missing, both make do with those that are there. Here a frame is read from front to back by readers
that find nothing when a byte is missing. They find what decoding finds, so decoding never reads beyond
the bytes present, and its offsets are those of the fields one after another. Main statement:
`Frame.read?_eq`.
-/

namespace FlowBurst.OpenFlow

/-! ### Readers -/

/-- The next bytes and what is behind them, if so many are there. -/
def next? (width : Nat) (bytes : List UInt8) : Option (List UInt8 × List UInt8) :=
  if width ≤ bytes.length then some (bytes.take width, bytes.drop width) else none

/-- The number in the next bytes and what is behind them, if so many are there. -/
def number? (width : Nat) (bytes : List UInt8) : Option (Nat × List UInt8) := do
  let (digits, rest) ← next? width bytes
  return (fromBigEndian digits, rest)

/-- The header at the front of some bytes. -/
def Header.read? (bytes : List UInt8) : Option (Header × List UInt8) := do
  let (version, bytes) ← number? 1 bytes
  let (type, bytes) ← number? 1 bytes
  let (length, bytes) ← number? 2 bytes
  let (xid, bytes) ← number? 4 bytes
  return ({ version := version.toUInt8, type := type.toUInt8, length := length.toUInt16,
            xid := xid.toUInt32 }, bytes)

/-- The switch configuration at the front of a body. -/
def SwitchConfig.read? (body : List UInt8) : Option SwitchConfig := do
  let (flags, body) ← number? 2 body
  let (missSendLength, _) ← number? 2 body
  return { flags := flags.toUInt16, missSendLength := missSendLength.toUInt16 }

/-- The features at the front of a body, with two bytes of padding in their midst. -/
def Features.read? (body : List UInt8) : Option Features := do
  let (datapathId, body) ← number? 8 body
  let (buffers, body) ← number? 4 body
  let (tables, body) ← number? 1 body
  let (auxiliaryId, body) ← number? 1 body
  let (_, body) ← next? 2 body
  let (capabilities, _) ← number? 4 body
  return { datapathId := datapathId.toUInt64, buffers := buffers.toUInt32, tables := tables.toUInt8,
           auxiliaryId := auxiliaryId.toUInt8, capabilities := capabilities.toUInt32 }

/-- The error report that a body holds. -/
def ErrorReport.read? (body : List UInt8) : Option ErrorReport := do
  let (type, body) ← number? 2 body
  let (code, data) ← number? 2 body
  return { type := type.toUInt16, code := code.toUInt16, data }

/-- The message of a known type in a body. -/
def Message.readFixed? (t : MessageType) (body : List UInt8) : Option Message :=
  match t with
  | .error => (ErrorReport.read? body).map error
  | .featuresReply => (Features.read? body).map featuresReply
  | .getConfigReply => (SwitchConfig.read? body).map getConfigReply
  | .setConfig => (SwitchConfig.read? body).map setConfig
  | .hello => some (hello body)
  | .echoRequest => some (echoRequest body)
  | .echoReply => some (echoReply body)
  | .featuresRequest => some featuresRequest
  | .getConfigRequest => some getConfigRequest
  | .barrierRequest => some barrierRequest
  | .barrierReply => some barrierReply

/-- What a body of the given type number holds. -/
def Message.read? (type : UInt8) (body : List UInt8) : Option (Except FrameError Message) :=
  match MessageType.ofCode? type with
  | none => some (.ok (unsupported type body))
  | some t =>
    if body.length < t.fixedLength then some (.error (.bodyTooShort type t.fixedLength body.length))
    else (Message.readFixed? t body).map .ok

/-- Decodes with readers alone. There is no answer when one of them finds nothing. -/
def Frame.read? (limit : Nat) (buffer : List UInt8) :
    Option (Except FrameError (Option Frame) × List UInt8) :=
  if buffer.length < headerLength then some (.ok none, buffer)
  else do
    let (header, _) ← Header.read? buffer
    let length := header.length.toNat
    if length < headerLength then return (.error (.lengthTooShort header.length), buffer)
    else if limit < length then return (.error (.frameTooLarge length limit), buffer)
    else if buffer.length < length then return (.ok none, buffer)
    else do
      let (frame, rest) ← next? length buffer
      let (_, body) ← next? headerLength frame
      let message ← Message.read? header.type body
      return (message.map fun message => some { version := header.version, xid := header.xid, message },
        rest)

/-! ### Where enough bytes are present -/

section Present

variable {bytes body : List UInt8} {offset width : Nat}

lemma next?_of_le (present : width ≤ bytes.length) :
    next? width bytes = some (bytes.take width, bytes.drop width) := if_pos present

/-- The next bytes behind others. -/
lemma next?_drop (present : offset + width ≤ bytes.length) : next? width (bytes.drop offset) =
    some ((bytes.drop offset).take width, bytes.drop (offset + width)) := by
  rw [next?_of_le (by rw [List.length_drop]; omega), List.drop_drop]

/-- The number at the front is the field at offset zero. -/
lemma number?_of_le (present : width ≤ bytes.length) :
    number? width bytes = some (field bytes 0 width, bytes.drop width) := by
  unfold number?
  rw [next?_of_le present]
  rfl

/-- The number behind other bytes is the field at that offset. -/
lemma number?_drop (present : offset + width ≤ bytes.length) : number? width (bytes.drop offset) =
    some (field bytes offset width, bytes.drop (offset + width)) := by
  unfold number?
  rw [next?_drop present]
  rfl

lemma Header.read?_eq (present : headerLength ≤ bytes.length) :
    read? bytes = (peek bytes).map fun header => (header, bytes.drop headerLength) := by
  unfold headerLength at present
  unfold read?
  rw [peek_eq present, number?_of_le (by omega)]
  simp (disch := omega) only [number?_drop, Option.bind_eq_bind, Option.bind_some]
  rfl

lemma SwitchConfig.read?_eq (present : 4 ≤ body.length) : read? body = some (ofBody body) := by
  unfold read?
  rw [number?_of_le (by omega)]
  simp (disch := omega) only [number?_drop, Option.bind_eq_bind, Option.bind_some]
  rfl

lemma Features.read?_eq (present : 24 ≤ body.length) : read? body = some (ofBody body) := by
  unfold read?
  rw [number?_of_le (by omega)]
  simp (disch := omega) only [number?_drop, next?_drop, Option.bind_eq_bind, Option.bind_some]
  rfl

lemma ErrorReport.read?_eq (present : 4 ≤ body.length) : read? body = some (ofBody body) := by
  unfold read?
  rw [number?_of_le (by omega)]
  simp (disch := omega) only [number?_drop, Option.bind_eq_bind, Option.bind_some]
  rfl

/-- Where the fixed part of a body is present, readers find the message. -/
lemma Message.readFixed?_eq {t : MessageType} (present : t.fixedLength ≤ body.length) :
    readFixed? t body = some (ofFixed t body) := by
  cases t with
  | error => exact congrArg (Option.map error) (ErrorReport.read?_eq present)
  | featuresReply => exact congrArg (Option.map featuresReply) (Features.read?_eq present)
  | getConfigReply => exact congrArg (Option.map getConfigReply) (SwitchConfig.read?_eq present)
  | setConfig => exact congrArg (Option.map setConfig) (SwitchConfig.read?_eq present)
  | _ => rfl

lemma Message.read?_eq (type : UInt8) (body : List UInt8) :
    read? type body = some (ofBody type body) := by
  unfold read? ofBody
  cases MessageType.ofCode? type with
  | none => rfl
  | some t =>
    dsimp only
    split
    · rfl
    next present => rw [readFixed?_eq (Nat.le_of_not_lt present), Option.map_some]

/-- **Decoding reads no byte beyond those present**: readers that find nothing when a byte is missing
find in every buffer what decoding finds, and leave what it leaves. -/
theorem Frame.read?_eq (limit : Nat) (buffer : List UInt8) :
    read? limit buffer = some (decode limit buffer) := by
  unfold read? decode
  by_cases short : buffer.length < headerLength
  · rw [if_pos short, Header.peek_eq_none short]
  · rw [if_neg short]
    have present : headerLength ≤ buffer.length := Nat.le_of_not_lt short
    rw [Header.read?_eq present, Header.peek_eq present]
    generalize ({ version := _, type := _, length := _, xid := _ } : Header) = header
    simp only [Option.map_some, Option.bind_eq_bind, Option.bind_some]
    split
    · rfl
    next long =>
      split
      · rfl
      · have enough : (buffer.take header.length.toNat).length < header.length.toNat ↔
            buffer.length < header.length.toNat := by
          rw [List.length_take]
          omega
        by_cases part : buffer.length < header.length.toNat
        · rw [if_pos part, if_pos (enough.2 part)]
          rfl
        · rw [if_neg part, if_neg (mt enough.1 part), next?_of_le (by omega)]
          simp only [Option.bind_some]
          rw [next?_of_le (by rw [List.length_take]; omega)]
          simp only [Option.bind_some]
          rw [Message.read?_eq]
          simp only [Option.bind_some]
          unfold ofBody
          cases Message.ofBody header.type _ <;> rfl

end Present

end FlowBurst.OpenFlow
