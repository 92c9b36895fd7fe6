import FlowBurst.Proofs.Framing
import Mathlib.Data.List.Forall2

/-!
# A stream of any frames

Whatever frames are written one behind another, decoding comes back to the boundary of a frame with
every step: it takes off the bytes of one frame, neither more nor less. A message that bears the
number of a type that it is not understood as is read as a message of that type, or found too short
for it; every other frame is read as it was written. Main statement: `Frame.stream_read_back`.
-/

namespace FlowBurst.OpenFlow

lemma Message.type?_ofFixed (t : MessageType) (body : List UInt8) :
    (Message.ofFixed t body).type? = some t := by
  cases t <;> rfl

namespace Frame

/-- The answers of decoding so many times, whatever they are, and what is left of the buffer. -/
def decodeTimes (limit : Nat) :
    Nat → List UInt8 → List (Except FrameError (Option Frame)) × List UInt8
  | 0, buffer => ([], buffer)
  | times + 1, buffer =>
    let (answer, rest) := decode limit buffer
    let (answers, rest) := decodeTimes limit times rest
    (answer :: answers, rest)

/-- How a frame is read back: as it was written if it is legible, and otherwise as a frame of the type
whose number it bears, unless its body is too short for that type. -/
structure ReadBack (f : Frame) (answer : Except FrameError (Option Frame)) : Prop where
  legible : f.message.Legible → answer = .ok (some f)
  mistaken : ∀ type body t, f.message = .unsupported type body → MessageType.ofCode? type = some t →
    t.fixedLength ≤ body.length →
      ∃ message : Message, message.type? = some t ∧ answer = .ok (some { f with message })
  short : ∀ type body t, f.message = .unsupported type body → MessageType.ofCode? type = some t →
    body.length < t.fixedLength →
      answer = .error (.bodyTooShort type t.fixedLength body.length)

variable {f : Frame} {limit : Nat}

/-- What is read of the header and the body of a frame. -/
lemma readBack_ofBody (f : Frame) : ReadBack f (ofBody f.header f.message.body) := by
  have read {type : UInt8} {body : List UInt8} (message : f.message = .unsupported type body) :
      f.header.type = type ∧ f.message.body = body := by
    rw [show f.header.type = f.message.typeCode from rfl, message]
    exact ⟨rfl, rfl⟩
  refine ⟨fun legible => ?_, fun type body t message known long => ?_,
    fun type body t message known short => ?_⟩
  · unfold ofBody
    rw [show f.header.type = f.message.typeCode from rfl, Message.ofBody_body legible]
    rfl
  · obtain ⟨type_eq, body_eq⟩ := read message
    refine ⟨Message.ofFixed t body, Message.type?_ofFixed t body, ?_⟩
    unfold ofBody Message.ofBody
    rw [type_eq, body_eq, known]
    dsimp only
    rw [if_neg (Nat.not_lt.2 long)]
    rfl
  · obtain ⟨type_eq, body_eq⟩ := read message
    unfold ofBody Message.ofBody
    rw [type_eq, body_eq, known]
    dsimp only
    rw [if_pos short]

/-- Decoding as often as there are frames reads these back and leaves what is behind them. -/
lemma decodeTimes_frames (fits : limit ≤ maxFrameLength) {frames : List Frame}
    (within : ∀ f ∈ frames, f.encodedLength ≤ limit) (rest : List UInt8) :
    ∃ answers, decodeTimes limit frames.length (frames.flatMap bytes ++ rest) = (answers, rest) ∧
      List.Forall₂ ReadBack frames answers := by
  induction frames with
  | nil => exact ⟨[], rfl, .nil⟩
  | cons f frames ih =>
    have own := within f List.mem_cons_self
    obtain ⟨answers, times, back⟩ := ih fun g hg => within g (List.mem_cons_of_mem _ hg)
    have head : decode limit ((f :: frames).flatMap bytes ++ rest) =
        (ofBody f.header f.message.body, frames.flatMap bytes ++ rest) := by
      rw [List.flatMap_cons, List.append_assoc]
      exact decode_bytes_append_eq _ (Nat.le_trans own fits) own
    refine ⟨ofBody f.header f.message.body :: answers, ?_, .cons (readBack_ofBody f) back⟩
    rw [List.length_cons, decodeTimes, head]
    dsimp only
    rw [times]

/-- **A stream of frames is read back frame by frame.** Frames within the limit have encodings; from
these one behind another, with anything behind them, each step of decoding takes off the bytes of the
first frame that is left and reads it back. -/
theorem stream_read_back (fits : limit ≤ maxFrameLength) {frames : List Frame}
    (within : ∀ f ∈ frames, f.encodedLength ≤ limit) (rest : List UInt8) :
    ∃ pieces : List (List UInt8), frames.map encode = pieces.map .ok ∧
      ∀ k ≤ frames.length, ∃ answers,
        decodeTimes limit k (pieces.flatten ++ rest) =
          (answers, (pieces.drop k).flatten ++ rest) ∧
        List.Forall₂ ReadBack (frames.take k) answers := by
  refine ⟨frames.map bytes, ?_, fun k hk => ?_⟩
  · rw [List.map_map]
    refine List.map_congr_left fun f hf => ?_
    exact if_pos (Nat.le_trans (within f hf) fits)
  · -- the first frames, with all the others as what is behind them
    obtain ⟨answers, times, back⟩ := decodeTimes_frames fits
      (fun f hf => within f (List.mem_of_mem_take hf))
      ((frames.drop k).flatMap bytes ++ rest)
    refine ⟨answers, ?_, back⟩
    rw [List.length_take, Nat.min_eq_left hk, ← List.append_assoc, ← List.flatMap_append,
      List.take_append_drop] at times
    rw [← List.flatMap_def, ← List.map_drop, ← List.flatMap_def]
    exact times

/-- A message that is understood, one that is not, and two that bear the number of SET_CONFIG, the first
with more than its body and the second with none. -/
def aliases : List Frame :=
  [⟨4, 1, .hello [7]⟩, ⟨4, 2, .unsupported 99 [1]⟩, ⟨5, 3, .unsupported 9 [0, 1, 0, 2, 8]⟩,
    ⟨4, 4, .unsupported 9 []⟩]

theorem stream_aliases :
    (∀ f ∈ aliases, f.encodedLength ≤ 20) ∧
      ∃ pieces : List (List UInt8), aliases.map encode = pieces.map .ok ∧
        ∀ k ≤ aliases.length, ∃ answers,
          decodeTimes 20 k (pieces.flatten ++ [4, 0]) =
            (answers, (pieces.drop k).flatten ++ [4, 0]) ∧
          List.Forall₂ ReadBack (aliases.take k) answers := by
  have within : ∀ f ∈ aliases, f.encodedLength ≤ 20 := by decide
  exact ⟨within, stream_read_back (by decide) within [4, 0]⟩

example : decodeTimes 20 4 (aliases.flatMap bytes ++ [4, 0]) =
    ([.ok (some ⟨4, 1, .hello [7]⟩), .ok (some ⟨4, 2, .unsupported 99 [1]⟩),
      .ok (some ⟨5, 3, .setConfig ⟨1, 2⟩⟩), .error (.bodyTooShort 9 4 0)], [4, 0]) := by
  decide

end Frame

end FlowBurst.OpenFlow
