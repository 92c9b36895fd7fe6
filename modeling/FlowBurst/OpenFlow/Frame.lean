import FlowBurst.OpenFlow.Message

/-!
# Frames

A frame is a message with the protocol version and the transaction id of its header; the length and
the type in the header follow from the message. `Frame.encode` gives the bytes of a frame, refusing
one whose length does not fit the header. `Frame.decode` takes one frame off the front of a buffer:
it waits for a whole header and then for the whole frame, refuses a length below that of the header
or above a limit without touching the buffer, and drops the frame from the buffer otherwise, also
when its body turns out too short.
-/

namespace FlowBurst.OpenFlow

/-- The length of a header. -/
def headerLength : Nat := 8

/-- The longest frame that a header can declare. -/
def maxFrameLength : Nat := 65535

/-- The protocol version of frames built here. -/
def protocolVersion : UInt8 := 4

/-- The first eight bytes of a frame. -/
structure Header where
  version : UInt8
  type : UInt8
  length : UInt16
  xid : UInt32
  deriving DecidableEq, Repr, Inhabited

namespace Header

/-- The bytes of a header. -/
def bytes (h : Header) : List UInt8 :=
  [h.version, h.type] ++ bigEndian 2 h.length.toNat ++ bigEndian 4 h.xid.toNat

/-- The header at the start of a buffer, if the buffer is long enough. -/
def peek : List UInt8 → Option Header
  | version :: type :: l₁ :: l₂ :: x₁ :: x₂ :: x₃ :: x₄ :: _ =>
    some { version, type, length := (fromBigEndian [l₁, l₂]).toUInt16,
           xid := (fromBigEndian [x₁, x₂, x₃, x₄]).toUInt32 }
  | _ => none

end Header

/-- A message with the version and the transaction id of its header. -/
structure Frame where
  version : UInt8 := protocolVersion
  xid : UInt32
  message : Message
  deriving DecidableEq, Repr

namespace Frame

/-- The length of the encoding. -/
def encodedLength (f : Frame) : Nat := headerLength + f.message.bodyLength

/-- The header of the encoding. -/
def header (f : Frame) : Header :=
  { version := f.version, type := f.message.typeCode, length := f.encodedLength.toUInt16,
    xid := f.xid }

/-- The bytes of a frame whose length fits its header. -/
def bytes (f : Frame) : List UInt8 := f.header.bytes ++ f.message.body

/-- The bytes of a frame, unless it is longer than a header can declare. -/
def encode (f : Frame) : Except FrameError (List UInt8) :=
  if f.encodedLength ≤ maxFrameLength then .ok f.bytes
  else .error (.frameTooLarge f.encodedLength maxFrameLength)

/-- Appends a frame to a buffer; a frame that cannot be encoded leaves the buffer as it was. -/
def appendTo (f : Frame) (buffer : List UInt8) : Except FrameError Unit × List UInt8 :=
  match f.encode with
  | .ok bytes => (.ok (), buffer ++ bytes)
  | .error e => (.error e, buffer)

/-- The frame of a header with the given body. -/
def ofBody (h : Header) (body : List UInt8) : Except FrameError (Option Frame) :=
  match Message.ofBody h.type body with
  | .ok message => .ok (some { version := h.version, xid := h.xid, message })
  | .error e => .error e

/-- Takes at most one frame of at most `limit` bytes off the front of a buffer, and gives what is
left of the buffer. The answer is `none` while the frame is incomplete. -/
def decode (limit : Nat) (buffer : List UInt8) : Except FrameError (Option Frame) × List UInt8 :=
  match Header.peek buffer with
  | none => (.ok none, buffer)
  | some h =>
    let length := h.length.toNat
    if length < headerLength then (.error (.lengthTooShort h.length), buffer)
    else if limit < length then (.error (.frameTooLarge length limit), buffer)
    else
      let frame := buffer.take length
      if frame.length < length then (.ok none, buffer)
      else (ofBody h (frame.drop headerLength), buffer.drop length)

/-- The answers of decoding again and again, at most `fuel` times, up to and including the first one
without a frame, each with what it leaves of the buffer. -/
def decodeUpTo (limit : Nat) :
    Nat → List UInt8 → List (Except FrameError (Option Frame) × List UInt8)
  | 0, _ => []
  | fuel + 1, buffer =>
    match decode limit buffer with
    | (.ok (some f), rest) => (.ok (some f), rest) :: decodeUpTo limit fuel rest
    | answer => [answer]

/-- The answers of decoding a buffer until there is no further frame. Each frame has at least eight
bytes, which bounds their number. -/
def decodeAll (limit : Nat) (buffer : List UInt8) :
    List (Except FrameError (Option Frame) × List UInt8) :=
  decodeUpTo limit (buffer.length / headerLength + 1) buffer

/-- Decodes once after each of several pieces has been added to a buffer. Gives the frames, with the
error that ended decoding if there was one, and what is left of the buffer. -/
def decodePieces (limit : Nat) (buffer : List UInt8) :
    List (List UInt8) → List (Except FrameError Frame) × List UInt8
  | [] => ([], buffer)
  | piece :: pieces =>
    match decode limit (buffer ++ piece) with
    | (.ok none, rest) => decodePieces limit rest pieces
    | (.ok (some f), rest) =>
      let (frames, rest) := decodePieces limit rest pieces
      (.ok f :: frames, rest)
    | (.error e, rest) => ([.error e], rest)

end Frame

end FlowBurst.OpenFlow
