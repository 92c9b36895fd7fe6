import FlowBurst.Numeral

/-!
# Hexadecimal text of a fixed width

The text of a number with a fixed count of lowercase hexadecimal digits, most significant first.
-/

namespace FlowBurst.Text

/-- The lowercase hexadecimal digit of a number below sixteen. -/
def hexDigit (d : Nat) : Char :=
  if d < 10 then Char.ofNat (48 + d) else Char.ofNat (87 + d)

/-- The last `width` hexadecimal digits of `n`. -/
def hexDigits (width n : Nat) : List Char := (Numeral.digits 16 width n).map hexDigit

/-- The text `0x` followed by the last `width` hexadecimal digits of `n`. -/
def hex (width n : Nat) : String := String.ofList ('0' :: 'x' :: hexDigits width n)

@[simp] theorem length_hexDigits (width n : Nat) : (hexDigits width n).length = width := by
  simp [hexDigits]

end FlowBurst.Text
