import FlowBurst.Proofs.Framing

/-!
# Frames appended to a buffer

A frame is written behind what a buffer holds, field by field, and a writer that gave up halfway would
leave a torn frame there, which spoils every frame behind it. No frame is torn: the length is looked at
before the first byte is written, and what is written then comes to that length, whatever the message.
Main statement: `Frame.appended_whole_or_not_at_all`.
-/

namespace FlowBurst.OpenFlow

/-! ### Writing in place -/

/-- What is written to a buffer in place: what has been written by the time of an error stays there. -/
abbrev InBuffer := ExceptT FrameError (StateM (List UInt8))

namespace InBuffer

/-- Writes bytes behind those that the buffer holds. -/
def put (bytes : List UInt8) : InBuffer Unit := modify (· ++ bytes)

/-- Writes a number into a field of the given width. -/
def putNumber (width n : Nat) : InBuffer Unit := put (bigEndian width n)

/-- A writer that never fails and puts certain bytes behind those that the buffer holds. -/
def Puts (w : InBuffer Unit) (bytes : List UInt8) : Prop :=
  ∀ buffer, w.run buffer = (.ok (), buffer ++ bytes)

section Puts

variable {w v : InBuffer Unit} {first second bytes : List UInt8}

lemma puts_put (bytes : List UInt8) : Puts (put bytes) bytes := fun _ => rfl

lemma puts_putNumber (width n : Nat) : Puts (putNumber width n) (bigEndian width n) := fun _ => rfl

lemma puts_nothing : Puts (pure ()) [] := fun buffer => by
  rw [List.append_nil]
  rfl

/-- One writer after another. -/
lemma Puts.andThen (hw : Puts w first) (hv : Puts v second) :
    Puts (do w; v) (first ++ second) := fun buffer => by
  have opened : (do w; v : InBuffer Unit).run buffer =
      (match w.run buffer with | (a, buffer) => ExceptT.bindCont (fun _ => v) a buffer) := rfl
  rw [opened, hw, ← List.append_assoc]
  exact hv (buffer ++ first)

lemma Puts.congr (hw : Puts w first) (h : first = bytes) : Puts w bytes := h ▸ hw

end Puts

end InBuffer

open InBuffer

/-- Writes the eight bytes of a header. -/
def Header.write (h : Header) : InBuffer Unit := do
  put [h.version]
  put [h.type]
  putNumber 2 h.length.toNat
  putNumber 4 h.xid.toNat

/-- Writes a switch configuration. -/
def SwitchConfig.write (c : SwitchConfig) : InBuffer Unit := do
  putNumber 2 c.flags.toNat
  putNumber 2 c.missSendLength.toNat

/-- Writes the features of a datapath, with their padding and reserved bytes. -/
def Features.write (f : Features) : InBuffer Unit := do
  putNumber 8 f.datapathId.toNat
  putNumber 4 f.buffers.toNat
  put [f.tables]
  put [f.auxiliaryId]
  put (.replicate 2 0)
  putNumber 4 f.capabilities.toNat
  putNumber 4 0

/-- Writes an error report. -/
def ErrorReport.write (e : ErrorReport) : InBuffer Unit := do
  putNumber 2 e.type.toNat
  putNumber 2 e.code.toNat
  put e.data

/-- Writes the body of a message. -/
def Message.write : Message → InBuffer Unit
  | hello data | echoRequest data | echoReply data => put data
  | error report => report.write
  | featuresReply features => features.write
  | getConfigReply config | setConfig config => config.write
  | featuresRequest | getConfigRequest | barrierRequest | barrierReply => pure ()
  | unsupported _ body => put body

/-- Writes a frame, unless it is longer than a header can declare. -/
def Frame.write (f : Frame) : InBuffer Unit := do
  if maxFrameLength < f.encodedLength then
    throw (.frameTooLarge f.encodedLength maxFrameLength)
  f.header.write
  f.message.write

lemma Header.puts_write (h : Header) : Puts h.write h.bytes := by
  have length := puts_putNumber 2 h.length.toNat
  have xid := puts_putNumber 4 h.xid.toNat
  exact ((puts_put [h.version]).andThen ((puts_put [h.type]).andThen (length.andThen xid))).congr
    (by simp [bytes])

lemma SwitchConfig.puts_write (c : SwitchConfig) : Puts c.write c.body :=
  (puts_putNumber 2 c.flags.toNat).andThen (puts_putNumber 2 c.missSendLength.toNat)

lemma Features.puts_write (f : Features) : Puts f.write f.body := by
  have datapathId := puts_putNumber 8 f.datapathId.toNat
  have buffers := puts_putNumber 4 f.buffers.toNat
  have padding := puts_put (List.replicate 2 0)
  have capabilities := puts_putNumber 4 f.capabilities.toNat
  have rest := padding.andThen (capabilities.andThen (puts_putNumber 4 0))
  refine (datapathId.andThen (buffers.andThen
    ((puts_put [f.tables]).andThen ((puts_put [f.auxiliaryId]).andThen rest)))).congr ?_
  have zeros : bigEndian 2 0 = List.replicate 2 0 := by decide
  simp [body, zeros]

lemma ErrorReport.puts_write (e : ErrorReport) : Puts e.write e.body := by
  have type := puts_putNumber 2 e.type.toNat
  have code := puts_putNumber 2 e.code.toNat
  exact (type.andThen (code.andThen (puts_put e.data))).congr (by simp [body])

/-- The body of a message is written as a whole, whatever the message. -/
lemma Message.puts_write (m : Message) : Puts m.write m.body := by
  cases m with
  | hello data | echoRequest data | echoReply data => exact puts_put data
  | error report => exact report.puts_write
  | featuresReply features => exact features.puts_write
  | getConfigReply config | setConfig config => exact config.puts_write
  | featuresRequest | getConfigRequest | barrierRequest | barrierReply => exact puts_nothing
  | unsupported type body => exact puts_put body

namespace Frame

variable {f : Frame}

/-! ### One frame -/

/-- Whether a header can declare the length of a frame. -/
def Fits (f : Frame) : Prop := f.encodedLength ≤ maxFrameLength

instance (f : Frame) : Decidable f.Fits := inferInstanceAs (Decidable (_ ≤ _))

lemma encode_of_fits (fits : f.Fits) : f.encode = .ok f.bytes := if_pos fits

lemma encode_of_not_fits (long : ¬ f.Fits) :
    f.encode = .error (.frameTooLarge f.encodedLength maxFrameLength) := if_neg long

lemma appendTo_of_fits (fits : f.Fits) (buffer : List UInt8) :
    f.appendTo buffer = (.ok (), buffer ++ f.bytes) := by
  unfold appendTo
  rw [encode_of_fits fits]

lemma appendTo_of_not_fits (long : ¬ f.Fits) (buffer : List UInt8) :
    f.appendTo buffer = (.error (.frameTooLarge f.encodedLength maxFrameLength), buffer) := by
  unfold appendTo
  rw [encode_of_not_fits long]

/-- **A frame that is written field by field** leaves the buffer with all of it, or as it was. -/
theorem run_write (f : Frame) (buffer : List UInt8) : f.write.run buffer = f.appendTo buffer := by
  by_cases fits : f.Fits
  · have checked : f.write = (do f.header.write; f.message.write) := if_neg (Nat.not_lt.2 fits)
    rw [appendTo_of_fits fits, checked]
    exact f.header.puts_write.andThen f.message.puts_write buffer
  · have checked : f.write = throw (.frameTooLarge f.encodedLength maxFrameLength) :=
      if_pos (Nat.not_le.1 fits)
    rw [appendTo_of_not_fits fits, checked]
    rfl

/-- How the bytes of a frame are laid out: the header declares how many they are. -/
structure Laid (f : Frame) (bytes : List UInt8) : Prop where
  length : bytes.length = f.encodedLength
  declared : ∃ high low, bytes[2]? = some high ∧ bytes[3]? = some low ∧
    256 * high.toNat + low.toNat = f.encodedLength
  body : bytes.drop headerLength = f.message.body

/-- The length that a header declares is that of the header and the body behind it. -/
lemma laid_bytes (fits : f.Fits) : f.Laid f.bytes := by
  refine ⟨length_bytes f, ?_, List.drop_left' f.header.length_bytes⟩
  obtain ⟨high, low, number⟩ : ∃ high low, bigEndian 2 f.header.length.toNat = [high, low] :=
    ⟨_, _, rfl⟩
  have declared : f.header.length.toNat = 256 * high.toNat + low.toNat := by
    have read := fromBigEndian_bigEndian 2 f.header.length.toNat
    have short : f.header.length.toNat < 256 ^ 2 := f.header.length.toNat_lt
    rw [number, Nat.mod_eq_of_lt short] at read
    simp only [fromBigEndian, Numeral.value, Numeral.valueFrom, List.map_cons, List.map_nil] at read
    omega
  refine ⟨high, low, ?_, ?_, declared ▸ length_header fits⟩
  · simp [bytes, Header.bytes, number]
  · simp [bytes, Header.bytes, number]

/-- What appending a frame to a buffer comes to. -/
structure Appended (f : Frame) (buffer : List UInt8) : Prop where
  accepted : (f.appendTo buffer).1 = .ok () ↔ f.encodedLength ≤ 65535
  /-- A refused frame leaves the buffer as it was, and has no bytes of its own. -/
  refused : 65535 < f.encodedLength →
    f.appendTo buffer = (.error (.frameTooLarge f.encodedLength 65535), buffer) ∧
      f.encode = .error (.frameTooLarge f.encodedLength 65535)
  /-- Any other is put behind what the buffer holds, with the bytes that it has by itself. -/
  written : f.encodedLength ≤ 65535 →
    ∃ bytes, f.appendTo buffer = (.ok (), buffer ++ bytes) ∧ f.encode = .ok bytes ∧ f.Laid bytes
  /-- The body is written with the length that was counted for it. -/
  body : ∃ body, Puts f.message.write body ∧ body.length = f.message.bodyLength
  /-- The frame may be written field by field. -/
  inPlace : f.write.run buffer = f.appendTo buffer

lemma appended (f : Frame) (buffer : List UInt8) : f.Appended buffer where
  accepted := by
    by_cases fits : f.Fits
    · rw [appendTo_of_fits fits]
      exact iff_of_true rfl fits
    · rw [appendTo_of_not_fits fits]
      exact iff_of_false (fun e => by cases e) fits
  refused long :=
    have unfit : ¬ f.Fits := Nat.not_le.2 long
    ⟨appendTo_of_not_fits unfit buffer, encode_of_not_fits unfit⟩
  written fits := ⟨f.bytes, appendTo_of_fits fits buffer, encode_of_fits fits, laid_bytes fits⟩
  body := ⟨f.message.body, f.message.puts_write, f.message.length_body⟩
  inPlace := run_write f buffer

/-! ### Frames one after another -/

/-- Appends frames to a buffer one after another, whatever the answers, and gives the answers. -/
def appendEach : List Frame → List UInt8 → List (Except FrameError Unit) × List UInt8
  | [], buffer => ([], buffer)
  | f :: frames, buffer =>
    let (answer, buffer) := f.appendTo buffer
    let (answers, buffer) := appendEach frames buffer
    (answer :: answers, buffer)

/-- What appending frames in turn comes to. -/
structure AppendedInTurn (frames : List Frame) (buffer : List UInt8) : Prop where
  /-- No frame is answered otherwise because of those before it. -/
  answered : (appendEach frames buffer).1 = frames.map fun f => f.encode.map fun _ => ()
  left : (appendEach frames buffer).2 = buffer ++ (frames.filter (·.Fits)).flatMap bytes
  /-- What was written is read back as the frames that were not refused. -/
  readable : (∀ f ∈ frames, f.message.Legible) →
    decodeAll maxFrameLength (appendEach frames []).2 = answers (frames.filter (·.Fits)) []

/-- A frame that is refused leaves no trace in what is written after it. -/
lemma appendEach_eq (frames : List Frame) (buffer : List UInt8) :
    appendEach frames buffer =
      (frames.map fun f => f.encode.map fun _ => (),
        buffer ++ (frames.filter (·.Fits)).flatMap bytes) := by
  induction frames generalizing buffer with
  | nil => simp [appendEach]
  | cons f frames ih =>
    unfold appendEach
    by_cases fits : f.Fits
    · simp [appendTo_of_fits fits, encode_of_fits fits, ih, fits, Except.map]
    · simp [appendTo_of_not_fits fits, encode_of_not_fits fits, ih, fits, Except.map]

lemma appendedInTurn (frames : List Frame) (buffer : List UInt8) : AppendedInTurn frames buffer where
  answered := by rw [appendEach_eq]
  left := by rw [appendEach_eq]
  readable legible := by
    have fit : ∀ f ∈ frames.filter (·.Fits), f.encodedLength ≤ maxFrameLength := fun f hf =>
      of_decide_eq_true (List.mem_filter.1 hf).2
    rw [appendEach_eq, List.nil_append, ← List.append_nil (List.flatMap ..)]
    exact decodeAll_frames (fun f hf => legible f (List.mem_filter.1 hf).1) fit rfl

/-- **A frame is appended whole or not at all**, whatever frame and whatever buffer, and a refused
frame is as good as never tried for those that are appended after it. -/
theorem appended_whole_or_not_at_all :
    (∀ (f : Frame) (buffer : List UInt8), f.Appended buffer) ∧
      ∀ (frames : List Frame) (buffer : List UInt8), AppendedInTurn frames buffer :=
  ⟨appended, appendedInTurn⟩

example : (appendEach [{ xid := 1, message := .hello [9] }, { xid := 2, message := .barrierReply }]
    [7]).2 = [7, 4, 0, 0, 9, 0, 0, 0, 1, 9, 4, 21, 0, 8, 0, 0, 0, 2] := by decide

end Frame

end FlowBurst.OpenFlow
