/-!
# Positional numerals of a fixed width

The digits of a natural number in a given base, most significant first, and the number that a list
of digits denotes. Big-endian fields of a frame are numerals in base 256, and the text of a
datapath id is a numeral in base 16. A numeral of width `w` has exactly `w` digits, each below the
base.
-/

namespace FlowBurst.Numeral

/-- The last `width` digits of `n`, most significant first. -/
def digits (base : Nat) : Nat → Nat → List Nat
  | 0, _ => []
  | width + 1, n => n / Nat.pow base width % base :: digits base width n

/-- The number denoted by a list of digits that follows a numeral of value `acc`. -/
def valueFrom (base : Nat) (acc : Nat) : List Nat → Nat
  | [] => acc
  | d :: ds => valueFrom base (acc * base + d) ds

/-- The number denoted by a list of digits, most significant first. -/
def value (base : Nat) (ds : List Nat) : Nat := valueFrom base 0 ds

@[simp] theorem length_digits (base width n : Nat) : (digits base width n).length = width := by
  induction width with
  | zero => rfl
  | succ w ih => simp [digits, ih]

theorem lt_of_mem_digits {base : Nat} (hb : 0 < base) {width n d : Nat}
    (h : d ∈ digits base width n) : d < base := by
  induction width with
  | zero => simp [digits] at h
  | succ w ih =>
    rcases List.mem_cons.1 h with rfl | h
    · exact Nat.mod_lt _ hb
    · exact ih h

end FlowBurst.Numeral
