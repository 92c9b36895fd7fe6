import FlowBurst.Proofs.Decoding
import FlowBurst.Proofs.Reading
import FlowBurst.Proofs.Streams

/-!
# What decoding answers

The answer about a buffer is settled by the length of the buffer, the length that its header declares,
the limit, and the type of the frame. Waiting for more bytes, a declared length below that of a header
and one above the limit leave the buffer as it is; a frame and a body that is too short take the
declared length off it. As that is a header at least, decoding again and again comes to rest.
Main statement: `Frame.decode_verdict`.
-/

namespace FlowBurst.OpenFlow

/-! ### Bodies that are too short -/

/-- Whether a body of so many bytes is too short for its type. -/
def Curtailed (type : UInt8) (length : Nat) : Prop :=
  (type = MessageType.error.code ∨ type = MessageType.getConfigReply.code ∨
      type = MessageType.setConfig.code) ∧ length < 4 ∨
    type = MessageType.featuresReply.code ∧ length < 24

lemma lt_fixedLength_iff (t : MessageType) (length : Nat) :
    length < t.fixedLength ↔ Curtailed t.code length := by
  cases t <;> simp [MessageType.fixedLength, Curtailed, MessageType.code]

lemma not_curtailed_of_unknown {type : UInt8} (unknown : MessageType.ofCode? type = none)
    (length : Nat) : ¬ Curtailed type length := by
  rintro (⟨rfl | rfl | rfl, -⟩ | ⟨rfl, -⟩) <;> simp at unknown

lemma Message.typeCode_ofFixed (t : MessageType) (body : List UInt8) :
    (ofFixed t body).typeCode = t.code := by
  cases t <;> rfl

/-- A body is refused if it is too short for its type, and otherwise is that of a message of its type. -/
lemma Message.ofBody_cases (type : UInt8) (body : List UInt8) :
    (Curtailed type body.length ∧ ∃ t, MessageType.ofCode? type = some t ∧
        ofBody type body = .error (.bodyTooShort type t.fixedLength body.length)) ∨
      ¬ Curtailed type body.length ∧ ∃ m, ofBody type body = .ok m ∧ m.typeCode = type := by
  unfold ofBody
  cases known : MessageType.ofCode? type with
  | none => exact .inr ⟨not_curtailed_of_unknown known _, _, rfl, rfl⟩
  | some t =>
    have code := MessageType.code_of_ofCode? known
    dsimp only
    rw [← code, ← lt_fixedLength_iff]
    split
    next short => exact .inl ⟨short, t, rfl, rfl⟩
    next long => exact .inr ⟨long, _, rfl, typeCode_ofFixed t body⟩

namespace Frame

variable {limit : Nat} {buffer : List UInt8}

/-! ### One answer -/

/-- What decoding answers about a buffer and what it leaves of it, by the length of the buffer, the
length that its header declares, the limit, and the type of the frame. -/
structure Verdict (limit : Nat) (buffer : List UInt8) (answer : Except FrameError (Option Frame))
    (rest : List UInt8) : Prop where
  incomplete : answer = .ok none ↔ buffer.length < headerLength ∨ headerLength ≤ declaredLength buffer ∧
    declaredLength buffer ≤ limit ∧ buffer.length < declaredLength buffer
  lengthTooShort : (∃ length, answer = .error (.lengthTooShort length)) ↔
    headerLength ≤ buffer.length ∧ declaredLength buffer < headerLength
  frameTooLarge : (∃ length bound, answer = .error (.frameTooLarge length bound)) ↔
    headerLength ≤ buffer.length ∧ headerLength ≤ declaredLength buffer ∧ limit < declaredLength buffer
  bodyTooShort : (∃ type expected actual, answer = .error (.bodyTooShort type expected actual)) ↔
    Whole limit buffer ∧ Curtailed (frontHeader buffer).type (declaredLength buffer - headerLength)
  frame : (∃ f, answer = .ok (some f)) ↔
    Whole limit buffer ∧ ¬ Curtailed (frontHeader buffer).type (declaredLength buffer - headerLength)
  header : ∀ f, answer = .ok (some f) → f.version = (frontHeader buffer).version ∧
    f.xid = (frontHeader buffer).xid ∧ f.message.typeCode = (frontHeader buffer).type
  kept : (answer = .ok none ∨ (∃ length, answer = .error (.lengthTooShort length)) ∨
    ∃ length bound, answer = .error (.frameTooLarge length bound)) → rest = buffer
  removed : ((∃ type expected actual, answer = .error (.bodyTooShort type expected actual)) ∨
      ∃ f, answer = .ok (some f)) →
    headerLength ≤ declaredLength buffer ∧ declaredLength buffer ≤ buffer.length ∧
      rest = buffer.drop (declaredLength buffer)

lemma verdict (limit : Nat) (buffer : List UInt8) :
    Verdict limit buffer (decode limit buffer).1 (decode limit buffer).2 := by
  -- once the answer is known it is no other one, and what is left to compare are lengths
  by_cases whole : Whole limit buffer
  · rw [decode_of_whole whole]
    have length := length_body_of_whole whole
    obtain ⟨header, within, present⟩ := id whole
    unfold ofBody
    rcases Message.ofBody_cases (frontHeader buffer).type
      ((buffer.take (declaredLength buffer)).drop headerLength) with
      ⟨short, t, -, refused⟩ | ⟨long, m, read, code⟩
    · rw [refused]
      rw [length] at short
      constructor <;> simp [whole, short] <;> omega
    · rw [read]
      rw [length] at long
      constructor <;> simp [whole, long, code] <;> omega
  · have torn : headerLength ≤ declaredLength buffer → declaredLength buffer ≤ limit →
        buffer.length < declaredLength buffer :=
      fun header within => Nat.lt_of_not_le fun present => whole ⟨header, within, present⟩
    rw [decode_eq]
    split_ifs
    all_goals constructor <;> simp [whole] <;> omega

/-! ### Decoding again and again -/

/-- What decoding so many times leaves of a buffer. -/
def leftAfter (limit times : Nat) (buffer : List UInt8) : List UInt8 :=
  (decodeTimes limit times buffer).2

lemma leftAfter_succ (limit times : Nat) (buffer : List UInt8) :
    leftAfter limit (times + 1) buffer = leftAfter limit times (decode limit buffer).2 := rfl

/-- Decoding leaves a buffer as it is or takes a header off it at least. -/
lemma kept_or_shorter (limit : Nat) (buffer : List UInt8) :
    (decode limit buffer).2 = buffer ∨
      (decode limit buffer).2.length + headerLength ≤ buffer.length := by
  by_cases whole : Whole limit buffer
  · refine .inr ?_
    have long := whole.header
    have present := whole.present
    rw [decode_of_whole whole, List.length_drop]
    omega
  · exact .inl (decode_of_not_whole whole)

/-- A buffer that decoding leaves as it is stays so. -/
lemma leftAfter_of_kept (kept : (decode limit buffer).2 = buffer) (times : Nat) :
    leftAfter limit times buffer = buffer := by
  induction times with
  | zero => rfl
  | succ times ih => rw [leftAfter_succ, kept, ih]

/-- Whether decoding a buffer takes a header off it at least so many times, and nothing ever after. -/
structure Exhausts (limit : Nat) (buffer : List UInt8) (removals : Nat) : Prop where
  shorter : ∀ times < removals, (leftAfter limit (times + 1) buffer).length + headerLength ≤
    (leftAfter limit times buffer).length
  rests : ∀ times ≥ removals, leftAfter limit times buffer = leftAfter limit removals buffer

/-- Decoding comes to rest, as a buffer has room for so many headers only. -/
lemma exists_exhausts (limit : Nat) (buffer : List UInt8) :
    ∃ removals ≤ buffer.length / headerLength, Exhausts limit buffer removals := by
  rcases kept_or_shorter limit buffer with kept | shorter
  · exact ⟨0, Nat.zero_le _, fun times h => (Nat.not_lt_zero times h).elim,
      fun times _ => leftAfter_of_kept kept times⟩
  · obtain ⟨removals, few, rest⟩ := exists_exhausts limit (decode limit buffer).2
    refine ⟨removals + 1, ?_, ?_, ?_⟩
    · unfold headerLength at shorter few ⊢
      omega
    · rintro (_ | times) h
      · exact shorter
      · exact rest.shorter times (Nat.lt_of_succ_lt_succ h)
    · rintro (_ | times) h
      · exact (Nat.not_succ_le_zero _ h).elim
      · exact rest.rests times (Nat.le_of_succ_le_succ h)
termination_by buffer.length
decreasing_by
  unfold headerLength at shorter
  omega

/-- **The verdict on a buffer.** Which answer decoding gives, and what it leaves, is settled by the
length of the buffer, the length that its header declares, the limit, and the type. No reader of it
lacks a byte, and decoding again and again takes something off a buffer no more often than it has room
for headers. -/
theorem decode_verdict (limit : Nat) (buffer : List UInt8) :
    Verdict limit buffer (decode limit buffer).1 (decode limit buffer).2 ∧
      read? limit buffer = some (decode limit buffer) ∧
      ∃ removals ≤ buffer.length / headerLength, Exhausts limit buffer removals :=
  ⟨verdict limit buffer, read?_eq limit buffer, exists_exhausts limit buffer⟩

/-- Two frames of which the second is too short for its type, and the header of one too large. -/
example : decodeTimes 12 4
    [4, 0, 0, 8, 0, 0, 0, 1, 4, 9, 0, 11, 0, 0, 0, 2, 0, 0, 0, 4, 2, 0, 13, 0, 0, 0, 3] =
    ([.ok (some ⟨4, 1, .hello []⟩), .error (.bodyTooShort 9 4 3), .error (.frameTooLarge 13 12),
      .error (.frameTooLarge 13 12)], [4, 2, 0, 13, 0, 0, 0, 3]) := by
  decide

end Frame

end FlowBurst.OpenFlow
