import FlowBurst.Proofs.Framing
import Mathlib.Tactic.SplitIfs

/-!
# Decoding while bytes come in

What decoding answers about a buffer is settled by its length, the length that its header declares and
the limit; only a frame that is there with all its bytes is taken off (`Frame.decode_eq`). A buffer is
decoded again and again while bytes are added at its end. A frame or an error is the answer for good,
whatever is added later; only the answer that a frame is incomplete may change. So the answers for a
whole buffer follow one by one from what is left of it, and a part of the buffer gives the first of
them. Main statements: `Frame.decode_append`, `Frame.decodeAll_eq`.
-/

namespace FlowBurst.OpenFlow

/-! ### One answer -/

/-- The length that the header of a buffer declares. -/
def declaredLength (buffer : List UInt8) : Nat := field buffer 2 2

lemma declaredLength_lt (buffer : List UInt8) : declaredLength buffer < 2 ^ 16 := by
  unfold declaredLength
  exact field_lt buffer 2 2

namespace Header

variable {bytes : List UInt8} {h : Header}

/-- A header that is there stays the same when bytes are added. -/
lemma peek_append (peeked : peek bytes = some h) (more : List UInt8) :
    peek (bytes ++ more) = some h := by
  unfold peek at peeked
  split at peeked
  · exact peeked
  · cases peeked

end Header

/-- What a body is read as: what it holds if its type is known, and otherwise itself. -/
lemma Message.ofBody_ok {type : UInt8} {body : List UInt8} {m : Message}
    (read : Message.ofBody type body = .ok m) :
    (MessageType.ofCode? type = none ∧ m = .unsupported type body) ∨
      ∃ t, MessageType.ofCode? type = some t ∧ t.fixedLength ≤ body.length ∧ m = .ofFixed t body := by
  unfold Message.ofBody at read
  cases known : MessageType.ofCode? type with
  | none =>
    rw [known] at read
    cases read
    exact .inl ⟨rfl, rfl⟩
  | some t =>
    rw [known] at read
    dsimp only at read
    split at read
    · cases read
    next long =>
      cases read
      exact .inr ⟨t, rfl, Nat.le_of_not_lt long, rfl⟩

namespace Frame

variable {limit : Nat} {buffer rest more : List UInt8} {answer : Except FrameError (Option Frame)}

/-- Whether the frame at the front of a buffer is there with all its bytes, and within the limit. -/
structure Whole (limit : Nat) (buffer : List UInt8) : Prop where
  header : headerLength ≤ declaredLength buffer
  within : declaredLength buffer ≤ limit
  present : declaredLength buffer ≤ buffer.length

/-- The header at the front of a buffer, by its fields. -/
def frontHeader (buffer : List UInt8) : Header :=
  { version := (field buffer 0 1).toUInt8, type := (field buffer 1 1).toUInt8
    length := (declaredLength buffer).toUInt16, xid := (field buffer 4 4).toUInt32 }

/-- How a buffer is decoded, by the length of the buffer and the length that its header declares. -/
lemma decode_eq (limit : Nat) (buffer : List UInt8) :
    decode limit buffer =
      if buffer.length < headerLength then (.ok none, buffer)
      else if declaredLength buffer < headerLength then
        (.error (.lengthTooShort (declaredLength buffer).toUInt16), buffer)
      else if limit < declaredLength buffer then
        (.error (.frameTooLarge (declaredLength buffer) limit), buffer)
      else if buffer.length < declaredLength buffer then (.ok none, buffer)
      else (ofBody (frontHeader buffer) ((buffer.take (declaredLength buffer)).drop headerLength),
        buffer.drop (declaredLength buffer)) := by
  unfold decode
  by_cases short : buffer.length < headerLength
  · rw [if_pos short, Header.peek_eq_none short]
  · have length : (frontHeader buffer).length.toNat = declaredLength buffer := by
      show (declaredLength buffer).toUInt16.toNat = _
      rw [UInt16.toNat_ofNat']
      exact Nat.mod_eq_of_lt (declaredLength_lt buffer)
    have taken : (buffer.take (declaredLength buffer)).length < declaredLength buffer ↔
        buffer.length < declaredLength buffer := by
      rw [List.length_take]
      omega
    have peeked : Header.peek buffer = some (frontHeader buffer) :=
      Header.peek_eq (Nat.le_of_not_lt short)
    rw [if_neg short, peeked]
    simp only [length, taken]
    rfl

/-- The answer about a frame that is there with all its bytes. -/
lemma decode_of_whole (whole : Whole limit buffer) :
    decode limit buffer =
      (ofBody (frontHeader buffer) ((buffer.take (declaredLength buffer)).drop headerLength),
        buffer.drop (declaredLength buffer)) := by
  obtain ⟨header, within, present⟩ := whole
  rw [decode_eq, if_neg (by omega), if_neg (by omega), if_neg (by omega), if_neg (by omega)]

lemma decode_of_not_whole (torn : ¬ Whole limit buffer) : (decode limit buffer).2 = buffer := by
  rw [decode_eq]
  split_ifs
  case neg => exact (torn ⟨by omega, by omega, by omega⟩).elim
  all_goals rfl

/-- The body of a frame that is there with all its bytes has the declared length without a header. -/
lemma length_body_of_whole (whole : Whole limit buffer) :
    ((buffer.take (declaredLength buffer)).drop headerLength).length =
      declaredLength buffer - headerLength := by
  rw [List.length_drop, List.length_take, Nat.min_eq_left whole.present]

/-- Only a frame that is there with all its bytes is read. -/
lemma whole_of_decode {f : Frame} (h : decode limit buffer = (.ok (some f), rest)) :
    Whole limit buffer := by
  rw [decode_eq] at h
  split_ifs at h
  case neg => exact ⟨by omega, by omega, by omega⟩
  all_goals cases h

lemma ofBody_ne_none {h : Header} {body : List UInt8} : ofBody h body ≠ .ok none := by
  unfold ofBody
  split <;> simp

/-- A buffer whose frame is incomplete is left as it is. -/
lemma eq_of_decode_none (h : decode limit buffer = (.ok none, rest)) : rest = buffer := by
  by_cases whole : Whole limit buffer
  · rw [decode_of_whole whole] at h
    exact (ofBody_ne_none (Prod.ext_iff.1 h).1).elim
  · have kept := decode_of_not_whole whole
    rwa [h] at kept

/-- **An answer stands**: bytes that are added at the end change neither a frame nor an error, and are
left behind what is left. -/
theorem decode_append (h : decode limit buffer = (answer, rest)) (final : answer ≠ .ok none)
    (more : List UInt8) : decode limit (buffer ++ more) = (answer, rest ++ more) := by
  unfold decode at h ⊢
  cases peeked : Header.peek buffer with
  | none =>
    rw [peeked] at h
    exact (final (Prod.ext_iff.1 h).1.symm).elim
  | some header =>
    rw [Header.peek_append peeked]
    rw [peeked] at h
    dsimp only at h ⊢
    split at h
    next short =>
      cases h
      rw [if_pos short]
    next long =>
      rw [if_neg long]
      split at h
      next large =>
        cases h
        rw [if_pos large]
      next within =>
        rw [if_neg within]
        split at h
        next => exact (final (Prod.ext_iff.1 h).1.symm).elim
        next whole =>
          have le : header.length.toNat ≤ buffer.length := by
            rw [List.length_take] at whole
            omega
          have taken : (buffer ++ more).take header.length.toNat = buffer.take header.length.toNat :=
            List.take_append_of_le_length le
          have left : (buffer ++ more).drop header.length.toNat =
              buffer.drop header.length.toNat ++ more := List.drop_append_of_le_length le
          rw [taken, left, if_neg whole]
          cases h
          rfl

/-- A frame takes at least its header off the buffer. -/
lemma length_of_decode {f : Frame} (h : decode limit buffer = (.ok (some f), rest)) :
    rest.length + headerLength ≤ buffer.length := by
  have whole := whole_of_decode h
  have long := whole.header
  have present := whole.present
  rw [decode_of_whole whole] at h
  have left : buffer.drop (declaredLength buffer) = rest := (Prod.ext_iff.1 h).2
  rw [← left, List.length_drop]
  omega

/-- What a frame leaves has room for fewer frames. -/
lemma fewer_of_decode {f : Frame} (h : decode limit buffer = (.ok (some f), rest)) :
    rest.length / headerLength < buffer.length / headerLength := by
  have shorter := length_of_decode h
  unfold headerLength at shorter ⊢
  omega

/-- Decoding ends before its fuel does, as every frame has a header. -/
lemma decodeUpTo_eq (limit : Nat) : ∀ {n m : Nat} (buffer : List UInt8),
    buffer.length / headerLength < n → buffer.length / headerLength < m →
      decodeUpTo limit n buffer = decodeUpTo limit m buffer := by
  intro n
  induction n with
  | zero => exact fun _ h => (Nat.not_lt_zero _ h).elim
  | succ n ih =>
    intro m buffer hn hm
    obtain ⟨m, rfl⟩ := Nat.exists_eq_succ_of_ne_zero (Nat.ne_zero_of_lt hm)
    unfold decodeUpTo
    rcases h : decode limit buffer with ⟨e | _ | f, rest⟩
    · rfl
    · rfl
    · have fewer := fewer_of_decode h
      have same : decodeUpTo limit n rest = decodeUpTo limit m rest :=
        ih rest (by omega) (by omega)
      dsimp only
      rw [same]

/-- **Decoding a whole buffer** is decoding it once and, after a frame, what that leaves. -/
theorem decodeAll_eq (limit : Nat) (buffer : List UInt8) :
    decodeAll limit buffer = match decode limit buffer with
      | (.ok (some f), rest) => (.ok (some f), rest) :: decodeAll limit rest
      | answer => [answer] := by
  unfold decodeAll
  rw [decodeUpTo]
  rcases h : decode limit buffer with ⟨e | _ | f, rest⟩
  · rfl
  · rfl
  · have same := decodeUpTo_eq limit rest (fewer_of_decode h) (Nat.lt_succ_self _)
    dsimp only
    rw [same]

/-! ### The length of what was decoded -/

/-- A body that was understood is no shorter than what is written for its message. -/
lemma bodyLength_le {type : UInt8} {body : List UInt8} {m : Message}
    (h : Message.ofBody type body = .ok m) : m.bodyLength ≤ body.length := by
  rcases Message.ofBody_ok h with ⟨-, rfl⟩ | ⟨t, -, long, rfl⟩
  · exact Nat.le_refl _
  · cases t <;>
      simp only [Message.ofFixed, Message.bodyLength, ErrorReport.ofBody, MessageType.fixedLength,
        List.length_drop] at long ⊢ <;>
      omega

/-- **What was decoded can be encoded**, whatever the limit of decoding: the header declared its
length. -/
theorem encodedLength_of_decode {f : Frame} (h : decode limit buffer = (.ok (some f), rest)) :
    f.encodedLength ≤ maxFrameLength := by
  have whole := whole_of_decode h
  have declared := declaredLength_lt buffer
  have length := length_body_of_whole whole
  have long := whole.header
  rw [decode_of_whole whole] at h
  have taken := (Prod.ext_iff.1 h).1
  unfold ofBody at taken
  split at taken
  next message understood =>
    have fits := bodyLength_le understood
    cases taken
    simp only [encodedLength, maxFrameLength]
    omega
  next => cases taken

end Frame

end FlowBurst.OpenFlow
