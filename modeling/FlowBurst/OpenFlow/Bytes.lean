import FlowBurst.Numeral

/-!
# Big-endian fields

Unsigned fields of a frame are written most significant byte first. `bigEndian` writes a field of a
given width, `fromBigEndian` reads the number that a run of bytes denotes, and `field` reads the
number at an offset of a body.
-/

namespace FlowBurst.OpenFlow

/-- The `width` bytes of `n`, most significant first. -/
def bigEndian (width n : Nat) : List UInt8 := (Numeral.digits 256 width n).map UInt8.ofNat

/-- The number that a run of bytes denotes. -/
def fromBigEndian (bytes : List UInt8) : Nat := Numeral.value 256 (bytes.map UInt8.toNat)

/-- The number in the `width` bytes at `offset`. -/
def field (bytes : List UInt8) (offset width : Nat) : Nat :=
  fromBigEndian ((bytes.drop offset).take width)

/-- A run of bytes cut into pieces of `size` bytes, or of one byte if `size` is zero; the last piece
may be shorter. -/
def chunks (size : Nat) (bytes : List UInt8) : List (List UInt8) :=
  if bytes = [] then [] else bytes.take (max size 1) :: chunks size (bytes.drop (max size 1))
termination_by bytes.length
decreasing_by
  have := List.length_pos_iff.2 ‹bytes ≠ []›
  simp
  omega

@[simp] theorem length_bigEndian (width n : Nat) : (bigEndian width n).length = width := by
  simp [bigEndian]

end FlowBurst.OpenFlow
