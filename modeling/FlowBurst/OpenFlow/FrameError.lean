/-!
# Failures of reading and writing frames

Why a frame cannot be read or written, with the text and the stable code of each cause.
-/

namespace FlowBurst.OpenFlow

/-- Why a frame cannot be read or written. -/
inductive FrameError
  /-- The header declares a length below that of the header itself. -/
  | lengthTooShort (length : UInt16)
  /-- The frame is longer than the limit in force. -/
  | frameTooLarge (length limit : Nat)
  /-- The body is shorter than the fixed part of its message type. -/
  | bodyTooShort (type : UInt8) (expected actual : Nat)
  deriving DecidableEq, Repr

namespace FrameError

/-- The text of a frame failure. -/
def message : FrameError → String
  | lengthTooShort length =>
    "openflow frame declares length " ++ toString length.toNat ++ ", shorter than the 8-byte header"
  | frameTooLarge length limit =>
    "openflow frame length " ++ toString length ++ " exceeds limit " ++ toString limit
  | bodyTooShort type expected actual =>
    "openflow message type " ++ toString type.toNat ++ " needs a " ++ toString expected
      ++ "-byte body, got " ++ toString actual

/-- The stable code of a frame failure. -/
def code : FrameError → String
  | lengthTooShort _ => "spark.openflow.length_too_short"
  | frameTooLarge _ _ => "spark.openflow.frame_too_large"
  | bodyTooShort _ _ _ => "spark.openflow.body_too_short"

end FrameError

end FlowBurst.OpenFlow
