import FlowBurst.OpenFlow.Frame
import FlowBurst.Proofs.Numerals
import Mathlib.Tactic.Lemma

/-!
# Frames one behind another

A frame that was encoded is taken off the front of a buffer as it was, whatever comes behind it, and
a part of a frame is left where it is. So frames that are written one behind another are read back in
their order. Main statements: `Frame.decode_bytes_append`, `Frame.decodeAll_frames`.
-/

namespace FlowBurst.OpenFlow

/-! ### Fields -/

section Fields

variable (width n : Nat) (rest : List UInt8)

@[simp] lemma field_bigEndian_append :
    field (bigEndian width n ++ rest) 0 width = n % 256 ^ width := by
  unfold field
  rw [List.drop_zero, List.take_append_of_le_length (by simp), List.take_of_length_le (by simp),
    fromBigEndian_bigEndian]

/-- A field behind some bytes. -/
lemma field_append {bytes : List UInt8} {offset : Nat} (h : bytes.length ≤ offset) :
    field (bytes ++ rest) offset width = field rest (offset - bytes.length) width := by
  unfold field
  rw [List.drop_append, List.drop_eq_nil_of_le h, List.nil_append]

lemma field_one (b : UInt8) : field (b :: rest) 0 1 = b.toNat := by
  simp [field, fromBigEndian, Numeral.value, Numeral.valueFrom]

/-- A field holds a number that its width has room for. -/
lemma field_lt (bytes : List UInt8) (offset width : Nat) : field bytes offset width < 256 ^ width := by
  have digits : ∀ d ∈ ((bytes.drop offset).take width).map UInt8.toNat, d < 256 := by
    intro d hd
    obtain ⟨b, -, rfl⟩ := List.mem_map.1 hd
    exact b.toNat_lt
  have few : (((bytes.drop offset).take width).map UInt8.toNat).length ≤ width := by
    rw [List.length_map, List.length_take]
    exact Nat.min_le_left _ _
  exact Nat.lt_of_lt_of_le (Numeral.value_lt digits) (Nat.pow_le_pow_right (by decide) few)

end Fields

/-! ### Bodies -/

/-- A configuration is read back as it was written. -/
lemma SwitchConfig.ofBody_body (c : SwitchConfig) : SwitchConfig.ofBody c.body = c := by
  have flags : field c.body 0 2 = c.flags.toNat := by
    rw [body, field_bigEndian_append]
    exact Nat.mod_eq_of_lt c.flags.toNat_lt
  have missSendLength : field c.body 2 2 = c.missSendLength.toNat := by
    rw [body, field_append _ _ (by simp), length_bigEndian, ← List.append_nil (bigEndian 2 _),
      field_bigEndian_append]
    exact Nat.mod_eq_of_lt c.missSendLength.toNat_lt
  simp [ofBody, flags, missSendLength]

/-- Features are read back as they were written. -/
lemma Features.ofBody_body (f : Features) : Features.ofBody f.body = f := by
  have datapathId : field f.body 0 8 = f.datapathId.toNat := by
    simp only [body, List.append_assoc]
    rw [field_bigEndian_append]
    exact Nat.mod_eq_of_lt f.datapathId.toNat_lt
  have buffers : field f.body 8 4 = f.buffers.toNat := by
    simp only [body, List.append_assoc]
    rw [field_append _ _ (by simp), length_bigEndian, field_bigEndian_append]
    exact Nat.mod_eq_of_lt f.buffers.toNat_lt
  have tables : field f.body 12 1 = f.tables.toNat := by
    simp only [body, List.append_assoc]
    rw [field_append _ _ (by simp), field_append _ _ (by simp), length_bigEndian, length_bigEndian]
    exact field_one _ _
  have auxiliaryId : field f.body 13 1 = f.auxiliaryId.toNat := by
    simp only [body, List.append_assoc]
    rw [field_append _ _ (by simp), field_append _ _ (by simp), length_bigEndian, length_bigEndian]
    exact field_one _ _
  have capabilities : field f.body 16 4 = f.capabilities.toNat := by
    simp only [body, List.append_assoc]
    rw [field_append _ _ (by simp), field_append _ _ (by simp), field_append _ _ (by simp),
      field_append _ _ (by simp)]
    simp only [length_bigEndian, List.length_cons, List.length_nil]
    rw [field_bigEndian_append]
    exact Nat.mod_eq_of_lt f.capabilities.toNat_lt
  simp [ofBody, datapathId, buffers, tables, auxiliaryId, capabilities]

/-- A report is read back as it was written. -/
lemma ErrorReport.ofBody_body (e : ErrorReport) : ErrorReport.ofBody e.body = e := by
  have type : field e.body 0 2 = e.type.toNat := by
    simp only [body, List.append_assoc]
    rw [field_bigEndian_append]
    exact Nat.mod_eq_of_lt e.type.toNat_lt
  have code : field e.body 2 2 = e.code.toNat := by
    simp only [body, List.append_assoc]
    rw [field_append _ _ (by simp), length_bigEndian, field_bigEndian_append]
    exact Nat.mod_eq_of_lt e.code.toNat_lt
  have data : e.body.drop 4 = e.data := by
    rw [body, List.drop_left' (by simp)]
  simp [ofBody, type, code, data]

namespace Message

/-- Whether a message is read back as it was written: one that is not understood must not bear the
number of a type that is. -/
def Legible : Message → Prop
  | unsupported type _ => MessageType.ofCode? type = none
  | _ => True

instance (m : Message) : Decidable m.Legible := by
  cases m <;> unfold Legible <;> infer_instance

variable {m : Message} {t : MessageType}

/-- The fixed part of what is written for a message is there. -/
lemma fixedLength_le (known : m.type? = some t) :
    m.typeCode = t.code ∧ t.fixedLength ≤ m.body.length := by
  rw [length_body]
  cases m <;> cases known <;> exact ⟨rfl, by simp [MessageType.fixedLength, bodyLength]⟩

lemma ofFixed_body (known : m.type? = some t) : ofFixed t m.body = m := by
  cases m <;> cases known
  case error report => exact congrArg error report.ofBody_body
  case featuresReply features => exact congrArg featuresReply features.ofBody_body
  case getConfigReply config => exact congrArg getConfigReply config.ofBody_body
  case setConfig config => exact congrArg setConfig config.ofBody_body
  all_goals rfl

/-- **A legible message is read back from its body.** -/
theorem ofBody_body (h : m.Legible) : ofBody m.typeCode m.body = .ok m := by
  cases known : m.type? with
  | none =>
    cases m <;> cases known
    unfold ofBody
    rw [show MessageType.ofCode? (typeCode (unsupported _ _)) = none from h]
    rfl
  | some t =>
    obtain ⟨code, long⟩ := fixedLength_le known
    unfold ofBody
    rw [code, MessageType.ofCode?_code]
    dsimp only
    rw [if_neg (Nat.not_lt.2 long), ofFixed_body known]

end Message

/-! ### Headers -/

namespace Header

@[simp] lemma length_bytes (h : Header) : h.bytes.length = headerLength := by
  simp [bytes, headerLength]

/-- **A header is read back from its bytes**, whatever comes behind them. -/
theorem peek_bytes_append (h : Header) (rest : List UInt8) : peek (h.bytes ++ rest) = some h := by
  obtain ⟨l₁, l₂, length⟩ : ∃ l₁ l₂, bigEndian 2 h.length.toNat = [l₁, l₂] := ⟨_, _, rfl⟩
  obtain ⟨x₁, x₂, x₃, x₄, xid⟩ : ∃ x₁ x₂ x₃ x₄, bigEndian 4 h.xid.toNat = [x₁, x₂, x₃, x₄] :=
    ⟨_, _, _, _, rfl⟩
  have length_eq : fromBigEndian [l₁, l₂] = h.length.toNat := by
    rw [← length, fromBigEndian_bigEndian]
    exact Nat.mod_eq_of_lt h.length.toNat_lt
  have xid_eq : fromBigEndian [x₁, x₂, x₃, x₄] = h.xid.toNat := by
    rw [← xid, fromBigEndian_bigEndian]
    exact Nat.mod_eq_of_lt h.xid.toNat_lt
  rw [bytes, length, xid]
  simp [peek, length_eq, xid_eq]

lemma peek_eq_none {bytes : List UInt8} (h : bytes.length < headerLength) : peek bytes = none := by
  unfold peek
  split
  · simp only [List.length_cons, headerLength] at h
    omega
  · rfl

/-- The parts of a header by their offsets. -/
lemma peek_eq {bytes : List UInt8} (present : headerLength ≤ bytes.length) :
    peek bytes = some { version := (field bytes 0 1).toUInt8, type := (field bytes 1 1).toUInt8,
                        length := (field bytes 2 2).toUInt16, xid := (field bytes 4 4).toUInt32 } := by
  rcases bytes with _ | ⟨version, _ | ⟨type, _ | ⟨l₁, _ | ⟨l₂, bytes⟩⟩⟩⟩
  case cons.cons.cons.cons =>
    rcases bytes with _ | ⟨x₁, _ | ⟨x₂, _ | ⟨x₃, _ | ⟨x₄, rest⟩⟩⟩⟩
    case cons.cons.cons.cons =>
      simp [peek, field, fromBigEndian, Numeral.value, Numeral.valueFrom]
    all_goals simp [headerLength] at present
  all_goals simp [headerLength] at present

end Header

/-! ### Frames -/

namespace Frame

variable {f : Frame} {limit : Nat} (rest : List UInt8)

lemma length_bytes (f : Frame) : f.bytes.length = f.encodedLength := by
  simp [bytes, encodedLength, Message.length_body]

/-- The length in the header of a frame that fits it. -/
lemma length_header (fits : f.encodedLength ≤ maxFrameLength) :
    f.header.length.toNat = f.encodedLength := by
  show f.encodedLength.toUInt16.toNat = _
  rw [UInt16.toNat_ofNat']
  exact Nat.mod_eq_of_lt (Nat.lt_succ_of_le fits)

lemma encodedLength_le {bytes : List UInt8} (h : f.encode = .ok bytes) :
    f.encodedLength ≤ maxFrameLength := by
  unfold encode at h
  split at h
  · assumption
  · cases h

/-- **As many bytes are taken off the front of a buffer as were written for a frame**, and its header
and its body are read, whatever the message. -/
theorem decode_bytes_append_eq (fits : f.encodedLength ≤ maxFrameLength)
    (within : f.encodedLength ≤ limit) :
    decode limit (f.bytes ++ rest) = (ofBody f.header f.message.body, rest) := by
  have peek : Header.peek (f.bytes ++ rest) = some f.header := by
    rw [bytes, List.append_assoc]
    exact Header.peek_bytes_append _ _
  have take : (f.bytes ++ rest).take f.encodedLength = f.bytes :=
    List.take_left' (length_bytes f)
  have drop : (f.bytes ++ rest).drop f.encodedLength = rest := List.drop_left' (length_bytes f)
  have body : f.bytes.drop headerLength = f.message.body :=
    List.drop_left' (Header.length_bytes f.header)
  have long : headerLength ≤ f.encodedLength := Nat.le_add_right _ _
  unfold decode
  rw [peek]
  dsimp only
  rw [length_header fits, if_neg (by omega), if_neg (by omega), take, drop, if_neg (by
    rw [length_bytes]
    omega), body]

/-- **A frame is taken off the front of a buffer**, and what comes behind it is left. -/
theorem decode_bytes_append (legible : f.message.Legible) (fits : f.encodedLength ≤ maxFrameLength)
    (within : f.encodedLength ≤ limit) : decode limit (f.bytes ++ rest) = (.ok (some f), rest) := by
  have read : ofBody f.header f.message.body = .ok (some f) := by
    unfold ofBody
    rw [show f.header.type = f.message.typeCode from rfl, Message.ofBody_body legible]
    rfl
  rw [decode_bytes_append_eq rest fits within, read]

/-- **A part of a frame is left where it is.** -/
theorem decode_of_prefix {part : List UInt8} (fits : f.encodedLength ≤ maxFrameLength)
    (within : f.encodedLength ≤ limit) (pre : part <+: f.bytes) (strict : part ≠ f.bytes) :
    decode limit part = (.ok none, part) := by
  have short : part.length < f.encodedLength := by
    rw [← length_bytes]
    exact Nat.lt_of_le_of_ne pre.length_le fun e => strict (pre.eq_of_length e)
  have long : headerLength ≤ f.encodedLength := Nat.le_add_right _ _
  by_cases h : part.length < headerLength
  · unfold decode
    rw [Header.peek_eq_none h]
  · obtain ⟨more, rfl⟩ : f.header.bytes <+: part := by
      refine List.prefix_of_prefix_length_le (List.prefix_append _ _) pre ?_
      rw [Header.length_bytes]
      omega
    unfold decode
    rw [Header.peek_bytes_append]
    dsimp only
    rw [length_header fits, if_neg (by omega), if_neg (by omega), if_pos]
    rw [List.length_take]
    omega

/-- What decoding answers, frame by frame, of frames one behind another and a part of one more. -/
def answers : List Frame → List UInt8 → List (Except FrameError (Option Frame) × List UInt8)
  | [], part => [(.ok none, part)]
  | f :: frames, part => (.ok (some f), frames.flatMap bytes ++ part) :: answers frames part

/-- **Frames one behind another are read back in their order**, and then what follows them is left, if
it is no frame. -/
theorem decodeAll_frames {frames : List Frame} {part : List UInt8}
    (legible : ∀ f ∈ frames, f.message.Legible)
    (fit : ∀ f ∈ frames, f.encodedLength ≤ maxFrameLength)
    (torn : decode maxFrameLength part = (.ok none, part)) :
    decodeAll maxFrameLength (frames.flatMap bytes ++ part) = answers frames part := by
  have upTo (fuel : Nat) (h : frames.length < fuel) :
      decodeUpTo maxFrameLength fuel (frames.flatMap bytes ++ part) = answers frames part := by
    induction frames generalizing fuel with
    | nil =>
      obtain ⟨fuel, rfl⟩ := Nat.exists_eq_succ_of_ne_zero (Nat.ne_zero_of_lt h)
      simp [decodeUpTo, torn, answers]
    | cons f frames ih =>
      obtain ⟨fuel, rfl⟩ := Nat.exists_eq_succ_of_ne_zero (Nat.ne_zero_of_lt h)
      have own := fit f List.mem_cons_self
      have head : decode maxFrameLength ((f :: frames).flatMap bytes ++ part) =
          (.ok (some f), frames.flatMap bytes ++ part) := by
        rw [List.flatMap_cons, List.append_assoc]
        exact decode_bytes_append _ (legible f List.mem_cons_self) own own
      unfold decodeUpTo
      rw [head]
      dsimp only
      rw [ih (fun g hg => legible g (List.mem_cons_of_mem _ hg))
        (fun g hg => fit g (List.mem_cons_of_mem _ hg)) fuel (by simpa using h), answers]
  have long : headerLength * frames.length ≤ (frames.flatMap bytes ++ part).length := by
    clear legible fit torn upTo
    induction frames with
    | nil => exact Nat.zero_le _
    | cons f frames ih =>
      have := length_bytes f
      simp only [List.flatMap_cons, List.length_append, List.length_cons, encodedLength,
        headerLength] at ih this ⊢
      omega
  refine upTo _ (Nat.lt_succ_of_le ?_)
  exact (Nat.le_div_iff_mul_le (by decide)).2 (Nat.mul_comm _ _ ▸ long)

end Frame

end FlowBurst.OpenFlow
