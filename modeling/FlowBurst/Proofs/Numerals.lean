import FlowBurst.OpenFlow.Bytes
import Mathlib.Algebra.Group.Nat.Defs
import Mathlib.Tactic.Lemma

/-!
# What numerals denote

A numeral of width `w` denotes the number modulo `base ^ w`, and a list of digits is the numeral of
its value; so a field of a frame is read back as it was written. Main statements:
`Numeral.value_digits`, `Numeral.digits_value`, `OpenFlow.fromBigEndian_bigEndian`,
`OpenFlow.bigEndian_fromBigEndian`.
-/

namespace FlowBurst.Numeral

/-- The digits of a number, from the most significant one on. -/
lemma digits_succ (base width n : Nat) :
    digits base (width + 1) n = n / base ^ width % base :: digits base width n := rfl

/-- The first digit of a numeral is where reading the others sets out from. -/
lemma value_eq_valueFrom (base d : Nat) (ds : List Nat) :
    value base (d :: ds) = valueFrom base d ds := by
  simp [value, valueFrom]

lemma valueFrom_eq (base acc : Nat) (ds : List Nat) :
    valueFrom base acc ds = acc * base ^ ds.length + value base ds := by
  induction ds generalizing acc with
  | nil => simp [valueFrom, value]
  | cons d ds ih =>
    rw [value_eq_valueFrom, valueFrom, ih, ih d, List.length_cons, Nat.pow_succ, Nat.add_mul,
      Nat.mul_assoc, Nat.mul_comm base, Nat.add_assoc]

lemma value_cons (base d : Nat) (ds : List Nat) :
    value base (d :: ds) = d * base ^ ds.length + value base ds := by
  rw [value_eq_valueFrom, valueFrom_eq]

lemma value_lt {base : Nat} {ds : List Nat} (h : ∀ d ∈ ds, d < base) :
    value base ds < base ^ ds.length := by
  induction ds with
  | nil => simp [value, valueFrom]
  | cons d ds ih =>
    have first := h d (by simp)
    have others := ih fun e other => h e (by simp [other])
    rw [value_cons, List.length_cons, Nat.pow_succ]
    calc d * base ^ ds.length + value base ds
        < d * base ^ ds.length + base ^ ds.length := by omega
      _ = (d + 1) * base ^ ds.length := by rw [Nat.add_mul, Nat.one_mul]
      _ ≤ base * base ^ ds.length := Nat.mul_le_mul_right _ first
      _ = base ^ ds.length * base := Nat.mul_comm _ _

/-- A numeral denotes the number modulo the capacity of its width. -/
theorem value_digits (base width n : Nat) :
    value base (digits base width n) = n % base ^ width := by
  induction width with
  | zero => simp [digits, value, valueFrom, Nat.mod_one]
  | succ w ih =>
    rw [digits_succ, value_cons, ih, length_digits, Nat.pow_succ, Nat.mod_mul, Nat.mul_comm,
      Nat.add_comm]

/-- What is more than the width holds is not seen in a numeral. -/
lemma digits_add (base width m k : Nat) :
    digits base width (m * base ^ width + k) = digits base width k := by
  induction width generalizing m k with
  | zero => rfl
  | succ w ih =>
    rw [digits_succ, digits_succ, Nat.pow_succ, Nat.mul_comm (base ^ w) base, ← Nat.mul_assoc, ih]
    congr 1
    by_cases empty : base ^ w = 0
    · simp [empty]
    · rw [Nat.add_comm, Nat.add_mul_div_right _ _ (Nat.pos_of_ne_zero empty),
        Nat.add_mul_mod_self_right]

/-- A list of digits is the numeral of its value. -/
theorem digits_value {base : Nat} {ds : List Nat} (h : ∀ d ∈ ds, d < base) :
    digits base ds.length (value base ds) = ds := by
  induction ds with
  | nil => rfl
  | cons d ds ih =>
    have first := h d (by simp)
    have others : ∀ e ∈ ds, e < base := fun e other => h e (by simp [other])
    have below := value_lt others
    have capacity : 0 < base ^ ds.length := Nat.lt_of_le_of_lt (Nat.zero_le _) below
    rw [List.length_cons, digits_succ, value_cons, digits_add, ih others]
    congr 1
    rw [Nat.add_comm, Nat.add_mul_div_right _ _ capacity, Nat.div_eq_of_lt below, Nat.zero_add,
      Nat.mod_eq_of_lt first]

end FlowBurst.Numeral

namespace FlowBurst.OpenFlow

theorem fromBigEndian_bigEndian (width n : Nat) :
    fromBigEndian (bigEndian width n) = n % 256 ^ width := by
  unfold fromBigEndian bigEndian
  rw [List.map_map, ← Numeral.value_digits 256 width n]
  congr 1
  refine (List.map_congr_left fun d digit => ?_).trans (List.map_id _)
  have byte := Numeral.lt_of_mem_digits (by omega) digit
  simpa [UInt8.toNat_ofNat'] using Nat.mod_eq_of_lt byte

theorem bigEndian_fromBigEndian (bytes : List UInt8) :
    bigEndian bytes.length (fromBigEndian bytes) = bytes := by
  unfold fromBigEndian bigEndian
  have byte : ∀ d ∈ bytes.map UInt8.toNat, d < 256 := by
    intro d member
    obtain ⟨b, -, rfl⟩ := List.mem_map.1 member
    exact b.toNat_lt
  have digits := Numeral.digits_value byte
  rw [List.length_map] at digits
  rw [digits, List.map_map]
  exact (List.map_congr_left fun b _ => by simp).trans (List.map_id _)

end FlowBurst.OpenFlow
