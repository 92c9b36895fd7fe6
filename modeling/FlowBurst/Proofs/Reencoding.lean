import FlowBurst.Proofs.Verdicts
import Mathlib.Data.List.TakeDrop

/-!
# Encoding what was decoded

A frame that was decoded can be encoded, in no more bytes than it took, and is decoded from these again:
encoding brings the bytes of a frame to a normal form. They had it from the start exactly if the body has
its fixed length, where its type leaves it no other, and the padding and the reserved bytes of
FEATURES_REPLY are zero. What decoding drops may be any bytes, and as many as the limit has room for.
Main statement: `Frame.encode_of_decode`.
-/

namespace FlowBurst.OpenFlow

/-! ### Bodies in normal form -/

/-- Whether a body of a known type is what is written for the message that it holds. -/
def MessageType.Exact (t : MessageType) (body : List UInt8) : Prop :=
  match t with
  | .hello | .error | .echoRequest | .echoReply => True
  | .featuresRequest | .getConfigRequest | .barrierRequest | .barrierReply => body.length = 0
  | .getConfigReply | .setConfig => body.length = 4
  | .featuresReply =>
    body.length = 24 ∧ (body.drop 14).take 2 = [0, 0] ∧ (body.drop 20).take 4 = [0, 0, 0, 0]

/-- Whether a body is what is written for the message that it holds. A body of an unknown type is. -/
def Exact (type : UInt8) (body : List UInt8) : Prop :=
  ∀ t, MessageType.ofCode? type = some t → t.Exact body

section Slices

variable {bytes body : List UInt8} {offset width : Nat}

/-- Writing a field again gives the bytes that it was read from. -/
lemma bigEndian_field (present : offset + width ≤ bytes.length) :
    bigEndian width (field bytes offset width % 256 ^ width) = (bytes.drop offset).take width := by
  have length : ((bytes.drop offset).take width).length = width := by
    rw [List.length_take, List.length_drop]
    omega
  have written := bigEndian_fromBigEndian ((bytes.drop offset).take width)
  rw [length] at written
  rw [Nat.mod_eq_of_lt (field_lt bytes offset width)]
  exact written

lemma bigEndian_toUInt16 (present : offset + 2 ≤ bytes.length) :
    bigEndian 2 (field bytes offset 2).toUInt16.toNat = (bytes.drop offset).take 2 := by
  rw [UInt16.toNat_ofNat']
  exact bigEndian_field present

lemma bigEndian_toUInt32 (present : offset + 4 ≤ bytes.length) :
    bigEndian 4 (field bytes offset 4).toUInt32.toNat = (bytes.drop offset).take 4 := by
  rw [UInt32.toNat_ofNat']
  exact bigEndian_field present

lemma bigEndian_toUInt64 (present : offset + 8 ≤ bytes.length) :
    bigEndian 8 (field bytes offset 8).toUInt64.toNat = (bytes.drop offset).take 8 := by
  rw [UInt64.toNat_ofNat']
  exact bigEndian_field present

lemma singleton_toUInt8 (present : offset + 1 ≤ bytes.length) :
    [(field bytes offset 1).toUInt8] = (bytes.drop offset).take 1 := by
  have small : field bytes offset 1 < 256 := field_lt bytes offset 1
  rw [← bigEndian_field present]
  simp [bigEndian, Numeral.digits, Nat.mod_eq_of_lt small]

/-- A slice and the one behind it are one slice. -/
lemma slice_append (bytes : List UInt8) (offset m n : Nat) :
    (bytes.drop offset).take m ++ (bytes.drop (offset + m)).take n =
      (bytes.drop offset).take (m + n) := by
  rw [List.take_add, List.drop_drop]

lemma SwitchConfig.body_ofBody (present : 4 ≤ body.length) : (ofBody body).body = body.take 4 := by
  unfold SwitchConfig.body ofBody
  rw [bigEndian_toUInt16 (by omega), bigEndian_toUInt16 (by omega)]
  exact slice_append body 0 2 2

lemma ErrorReport.body_ofBody (present : 4 ≤ body.length) : (ofBody body).body = body := by
  unfold ErrorReport.body ofBody
  rw [bigEndian_toUInt16 (by omega), bigEndian_toUInt16 (by omega), slice_append body 0 2 2]
  exact List.take_append_drop 4 body

/-- Of the features, the padding and the reserved bytes are written as zero. -/
lemma Features.body_ofBody (present : 24 ≤ body.length) :
    (ofBody body).body =
      body.take 14 ++ ([0, 0] ++ ((body.drop 16).take 4 ++ [0, 0, 0, 0])) := by
  have front : (body.drop 0).take 8 ++ (body.drop 8).take 4 ++
      ((body.drop 12).take 1 ++ (body.drop 13).take 1) = body.take 14 := by
    rw [slice_append body 12 1 1, slice_append body 0 8 4, slice_append body 0 12 2]
    rfl
  unfold Features.body ofBody
  rw [bigEndian_toUInt64 (by omega), bigEndian_toUInt32 (by omega), bigEndian_toUInt32 (by omega),
    ← List.singleton_append, singleton_toUInt8 (by omega), singleton_toUInt8 (by omega), front]
  simp [bigEndian, Numeral.digits]

/-- A body of the length of features, cut at its padding and its reserved bytes. -/
lemma Features.slices (length : body.length = 24) :
    body.take 14 ++ ((body.drop 14).take 2 ++ ((body.drop 16).take 4 ++ (body.drop 20).take 4)) =
      body := by
  rw [slice_append body 16 4 4, slice_append body 14 2 8]
  show (body.drop 0).take 14 ++ _ = _
  rw [slice_append body 0 14 10]
  exact List.take_of_length_le (Nat.le_of_eq length)

end Slices

namespace Message

variable {type : UInt8} {body : List UInt8} {m : Message}

lemma body_ofFixed_iff (t : MessageType) (present : t.fixedLength ≤ body.length) :
    (ofFixed t body).body = body ↔ t.Exact body := by
  cases t with
  | hello | echoRequest | echoReply => exact iff_of_true rfl trivial
  | error => exact iff_of_true (ErrorReport.body_ofBody present) trivial
  | featuresRequest | getConfigRequest | barrierRequest | barrierReply =>
    exact eq_comm.trans List.length_eq_zero_iff.symm
  | getConfigReply | setConfig =>
    show (SwitchConfig.ofBody body).body = body ↔ body.length = 4
    rw [SwitchConfig.body_ofBody present, List.take_eq_self_iff]
    exact ⟨fun few => Nat.le_antisymm few present, Nat.le_of_eq⟩
  | featuresReply =>
    show (Features.ofBody body).body = body ↔ _
    have written := Features.body_ofBody present
    constructor
    · intro same
      have length : body.length = 24 := by
        rw [← same]
        exact length_body (featuresReply (.ofBody body))
      have cut := (written.symm.trans same).trans (Features.slices length).symm
      obtain ⟨padding, behind⟩ := List.append_inj (List.append_cancel_left cut) (by simp [length])
      exact ⟨length, padding.symm, (List.append_cancel_left behind).symm⟩
    · rintro ⟨length, padding, reserved⟩
      have cut := Features.slices length
      rw [padding, reserved] at cut
      exact written.trans cut

/-- **A body is what is written for its message** exactly if it is in normal form. -/
lemma body_iff (read : ofBody type body = .ok m) : m.body = body ↔ Exact type body := by
  rcases ofBody_ok read with ⟨unknown, rfl⟩ | ⟨t, known, long, rfl⟩
  · exact iff_of_true rfl fun t known => by simp [unknown] at known
  · rw [body_ofFixed_iff t long]
    refine ⟨fun exact u known' => ?_, fun exact => exact t known⟩
    obtain rfl := Option.some.inj (known.symm.trans known')
    exact exact

/-- A message bears the number that it was read under. -/
lemma typeCode_of_ofBody (read : ofBody type body = .ok m) : m.typeCode = type := by
  rcases ofBody_ok read with ⟨-, rfl⟩ | ⟨t, known, -, rfl⟩
  · rfl
  · exact (typeCode_ofFixed t body).trans (MessageType.code_of_ofCode? known)

lemma legible_of_ofBody (read : ofBody type body = .ok m) : m.Legible := by
  rcases ofBody_ok read with ⟨unknown, rfl⟩ | ⟨t, -, -, rfl⟩
  · exact unknown
  · cases t <;> trivial

end Message

/-! ### Bytes that are dropped -/

/-- Whether decoding drops the byte at a position of a body of a known type. -/
def MessageType.Drops (t : MessageType) (position : Nat) : Prop :=
  match t with
  | .hello | .error | .echoRequest | .echoReply => False
  | .featuresRequest | .getConfigRequest | .barrierRequest | .barrierReply => True
  | .getConfigReply | .setConfig => 4 ≤ position
  | .featuresReply => 14 ≤ position ∧ position < 16 ∨ 20 ≤ position

/-- Whether two bodies have the same bytes but for those that decoding drops. -/
def Alike (type : UInt8) (body other : List UInt8) : Prop :=
  ∀ position, (∀ t, MessageType.ofCode? type = some t → ¬ t.Drops position) →
    body[position]? = other[position]?

section Alike

variable {type : UInt8} {body other : List UInt8} {t : MessageType} {m : Message}

/-- A field is that of any bytes that are the same where it is. -/
lemma field_congr {offset width : Nat}
    (same : ∀ position, offset ≤ position → position < offset + width →
      body[position]? = other[position]?) :
    field body offset width = field other offset width := by
  have slices : (body.drop offset).take width = (other.drop offset).take width := by
    refine List.ext_getElem? fun i => ?_
    rw [List.getElem?_take, List.getElem?_take, List.getElem?_drop, List.getElem?_drop]
    split
    · exact same _ (by omega) (by omega)
    · rfl
  unfold field
  rw [slices]

lemma SwitchConfig.ofBody_congr (same : ∀ position < 4, body[position]? = other[position]?) :
    ofBody body = ofBody other := by
  unfold ofBody
  rw [field_congr fun position _ h => same position (by omega),
    field_congr fun position _ h => same position (by omega)]

lemma Features.ofBody_congr
    (same : ∀ position, ¬ MessageType.featuresReply.Drops position → body[position]? = other[position]?) :
    ofBody body = ofBody other := by
  have front {offset width : Nat} (h : offset + width ≤ 14) :
      field body offset width = field other offset width :=
    field_congr fun position _ h => same position (by unfold MessageType.Drops; omega)
  have behind : field body 16 4 = field other 16 4 :=
    field_congr fun position _ h => same position (by unfold MessageType.Drops; omega)
  unfold ofBody
  rw [front (by omega), front (by omega), front (by omega), front (by omega), behind]

lemma Message.ofFixed_congr
    (same : ∀ position, ¬ t.Drops position → body[position]? = other[position]?) :
    ofFixed t body = ofFixed t other := by
  cases t with
  | hello | error | echoRequest | echoReply =>
    rw [List.ext_getElem? fun position => same position id]
  | featuresRequest | getConfigRequest | barrierRequest | barrierReply => rfl
  | getConfigReply | setConfig =>
    have config := SwitchConfig.ofBody_congr fun position h => same position (Nat.not_le_of_lt h)
    unfold ofFixed
    rw [config]
  | featuresReply => exact congrArg featuresReply (Features.ofBody_congr same)

/-- **What decoding drops has no influence**: a body that is long enough for its type and like another
one holds the same message. -/
lemma Message.ofBody_congr (read : ofBody type body = .ok m) (long : ¬ Curtailed type other.length)
    (alike : Alike type body other) : ofBody type other = .ok m := by
  rcases ofBody_ok read with ⟨unknown, rfl⟩ | ⟨t, known, -, rfl⟩
  · have same : body = other :=
      List.ext_getElem? fun position => alike position fun t known => by simp [unknown] at known
    rw [← same]
    exact read
  · rw [← MessageType.code_of_ofCode? known, ← lt_fixedLength_iff] at long
    have same : ofFixed t body = ofFixed t other :=
      ofFixed_congr fun position kept => alike position fun u known' => by
        obtain rfl := Option.some.inj (known.symm.trans known')
        exact kept
    unfold ofBody
    rw [known, same]
    exact if_neg long

end Alike

/-! ### Frames with other bodies -/

namespace Frame

variable {f : Frame} {limit : Nat} {buffer rest body other : List UInt8}

/-- The bytes of a frame with another body in place of its own. -/
def withBody (f : Frame) (body : List UInt8) : List UInt8 :=
  Header.bytes
    { version := f.version, type := f.message.typeCode
      length := (headerLength + body.length).toUInt16, xid := f.xid } ++ body

lemma withBody_own (f : Frame) : f.withBody f.message.body = f.bytes := by
  unfold withBody
  rw [Message.length_body]
  rfl

lemma length_withBody : (f.withBody body).length = headerLength + body.length := by
  unfold withBody
  rw [List.length_append, Header.length_bytes]

lemma drop_withBody : (f.withBody body).drop headerLength = body :=
  List.drop_left' (Header.length_bytes _)

lemma withBody_inj : f.withBody body = f.withBody other ↔ body = other := by
  refine ⟨fun same => ?_, fun same => by rw [same]⟩
  have behind := congrArg (List.drop headerLength) same
  rwa [drop_withBody, drop_withBody] at behind

/-- The header at the front of a buffer is written there. -/
lemma bytes_frontHeader (present : headerLength ≤ buffer.length) :
    (frontHeader buffer).bytes = buffer.take headerLength := by
  unfold headerLength at present
  have front : (buffer.drop 0).take 1 ++ (buffer.drop 1).take 1 ++ (buffer.drop 2).take 2 ++
      (buffer.drop 4).take 4 = buffer.take headerLength := by
    rw [slice_append buffer 0 1 1, slice_append buffer 0 2 2, slice_append buffer 0 4 4]
    rfl
  unfold Header.bytes frontHeader declaredLength
  rw [bigEndian_toUInt16 (by omega), bigEndian_toUInt32 (by omega), ← List.singleton_append,
    singleton_toUInt8 (by omega), singleton_toUInt8 (by omega), front]

/-- What was at the front of a buffer when a frame was taken off it. -/
lemma exists_withBody (decoded : decode limit buffer = (.ok (some f), rest)) :
    ∃ body, buffer = f.withBody body ++ rest ∧ Message.ofBody f.message.typeCode body = .ok f.message ∧
      headerLength + body.length ≤ limit ∧ headerLength + body.length ≤ maxFrameLength := by
  have whole := whole_of_decode decoded
  have length := length_body_of_whole whole
  have declared := declaredLength_lt buffer
  obtain ⟨long, within, present⟩ := id whole
  rw [decode_of_whole whole] at decoded
  obtain ⟨answer, left⟩ := Prod.mk.inj decoded
  unfold ofBody at answer
  split at answer
  next message read =>
    cases answer
    have code := Message.typeCode_of_ofBody read
    rw [← code] at read
    refine ⟨_, ?_, read, by omega, by unfold maxFrameLength; omega⟩
    unfold withBody
    dsimp only
    rw [code, length, Nat.add_sub_cancel' long, ← left]
    show _ = (frontHeader buffer).bytes ++ _ ++ _
    rw [bytes_frontHeader (by omega)]
    have front : buffer.take headerLength =
        (buffer.take (declaredLength buffer)).take headerLength := by
      rw [List.take_take, Nat.min_eq_left long]
    rw [front, List.take_append_drop, List.take_append_drop]
  next => cases answer

lemma ofBody_of_read {h : Header} {message : Message} (read : Message.ofBody h.type body = .ok message) :
    ofBody h body = .ok (some { version := h.version, xid := h.xid, message }) := by
  unfold ofBody
  rw [read]

/-- A frame with another body of which it is the message is taken off the front of a buffer. -/
lemma decode_withBody (read : Message.ofBody f.message.typeCode body = .ok f.message)
    (within : headerLength + body.length ≤ limit)
    (fits : headerLength + body.length ≤ maxFrameLength) (more : List UInt8) :
    decode limit (f.withBody body ++ more) = (.ok (some f), more) := by
  let raw : Frame := { f with message := .unsupported f.message.typeCode body }
  have decoded : decode limit (f.withBody body ++ more) = (ofBody raw.header body, more) :=
    decode_bytes_append_eq (f := raw) more fits within
  rw [decoded, ofBody_of_read read]
  rfl

/-- How the bytes that a frame was decoded from and those that it is encoded in compare. -/
structure Normalizes (limit : Nat) (f : Frame) (consumed encoding : List UInt8) : Prop where
  encode : f.encode = .ok encoding
  length_le : encoding.length ≤ consumed.length
  decode_again : ∀ more, decode limit (encoding ++ more) = (.ok (some f), more)
  eq_iff : encoding = consumed ↔ Exact f.message.typeCode (consumed.drop headerLength)
  consumed_eq : consumed = f.withBody (consumed.drop headerLength)
  /-- The frame may have any body like the one it had. -/
  decode_alike : ∀ body, Alike f.message.typeCode (consumed.drop headerLength) body →
    ¬ Curtailed f.message.typeCode body.length → headerLength + body.length ≤ limit →
    headerLength + body.length ≤ maxFrameLength →
      ∀ more, decode limit (f.withBody body ++ more) = (.ok (some f), more)

/-- **Encoding what was decoded.** A frame that was taken off a buffer can be encoded, in no more bytes
than it was, and is decoded from these whatever comes behind them; they are the very bytes exactly if
the body is in normal form. What decoding drops has no influence: the frame is decoded from its header
with any body like the one it had, if that is not too short for the type nor the frame too long. -/
theorem encode_of_decode (decoded : decode limit buffer = (.ok (some f), rest)) :
    ∃ consumed encoding, buffer = consumed ++ rest ∧ Normalizes limit f consumed encoding := by
  obtain ⟨body, rfl, read, within, fits⟩ := exists_withBody decoded
  have legible := Message.legible_of_ofBody read
  have shorter : f.message.body.length ≤ body.length := by
    rw [Message.length_body]
    exact bodyLength_le read
  refine ⟨f.withBody body, f.withBody f.message.body, rfl, ?_⟩
  constructor
  case encode =>
    rw [withBody_own]
    exact if_pos (encodedLength_of_decode decoded)
  case length_le =>
    rw [length_withBody, length_withBody]
    omega
  case decode_again => exact decode_withBody (Message.ofBody_body legible) (by omega) (by omega)
  case eq_iff =>
    rw [withBody_inj, drop_withBody]
    exact Message.body_iff read
  case consumed_eq => rw [drop_withBody]
  case decode_alike =>
    rw [drop_withBody]
    intro other alike long within fits
    exact decode_withBody (Message.ofBody_congr read long alike) within fits

/-- Features with bytes that are not zero in their padding and where they are reserved, and two more
behind them, in front of a byte of the next frame. -/
def paddedFeatures : List UInt8 :=
  [4, 6, 0, 34, 0, 0, 0, 1, 0, 0, 0, 0, 0, 0, 0, 9, 0, 0, 1, 0, 254, 3, 7, 7, 0, 0, 0, 71, 5, 5, 5, 5,
    6, 6, 4]

theorem encode_paddedFeatures :
    decode 64 paddedFeatures = (.ok (some ⟨4, 1, .featuresReply ⟨9, 256, 254, 3, 71⟩⟩), [4]) ∧
      ∃ consumed encoding, paddedFeatures = consumed ++ [4] ∧
        Normalizes 64 ⟨4, 1, .featuresReply ⟨9, 256, 254, 3, 71⟩⟩ consumed encoding := by
  have decoded : decode 64 paddedFeatures =
      (.ok (some ⟨4, 1, .featuresReply ⟨9, 256, 254, 3, 71⟩⟩), [4]) := by
    decide
  exact ⟨decoded, encode_of_decode decoded⟩

end Frame

end FlowBurst.OpenFlow
