import FlowBurst.Proofs.Counts

/-!
# Why a text is refused as a count

A text that is no count is refused for one of three reasons: nothing is left of it without the white
space at its ends, it denotes a negative number, or it is anything else. A number counts as negative
only as far as a signed integer of 64 bits goes: one that is still smaller is refused as if it were
not a number at all.

Main statements: `reason_of_refusal`, and `negative_out_of_range` for the first number that is too
small.
-/

namespace FlowBurst.Burst

open FlowBurst.Text

/-! ### Negative numbers -/

/-- The texts of negative numbers, each with the size of the number: a minus sign before a numeral,
with leading zeros or not, of more than zero. -/
def IsNegative (cs : List Char) (n : Nat) : Prop := ∃ ds, cs = '-' :: ds ∧ IsNumeral ds n ∧ 0 < n

/-- A negative number is a minus sign before digits that are not all zeros, however many. -/
theorem exists_isNegative {cs : List Char} :
    (∃ n, IsNegative cs n) ↔
      ∃ ds, cs = '-' :: ds ∧ ds ≠ [] ∧ (∀ c ∈ ds, c.isDigit = true) ∧ ∃ c ∈ ds, c ≠ '0' := by
  constructor
  · rintro ⟨n, ds, rfl, numeral, positive⟩
    refine ⟨ds, rfl, numeral.nonempty, numeral.digits, ?_⟩
    by_contra none_other
    have zeros : ∀ c ∈ ds, c = '0' := by
      intro c hc
      by_contra other
      exact none_other ⟨c, hc, other⟩
    have repeated : ds = List.replicate ds.length '0' := List.eq_replicate_of_mem zeros
    have value := numeral.value
    rw [repeated, Nat.ofDigitChars_replicate_zero] at value
    omega
  · rintro ⟨ds, rfl, nonempty, digits, c, hc, other⟩
    refine ⟨Nat.ofDigitChars 10 ds 0, ds, rfl, ⟨nonempty, digits, rfl⟩, ?_⟩
    by_contra zero
    exact other (eq_zero_of_value digits (by omega) c hc)

lemma IsNegative.unique {cs : List Char} {n m : Nat} (hn : IsNegative cs n) (hm : IsNegative cs m) :
    n = m := by
  obtain ⟨ds, rfl, numeral, -⟩ := hn
  obtain ⟨es, same, numeral', -⟩ := hm
  obtain rfl : ds = es := List.tail_eq_of_cons_eq same
  rw [← numeral.value, ← numeral'.value]

/-! ### The reason given -/

lemma countOf_eq_empty {cs : List Char} : Request.countOf cs = .error .empty ↔ cs = [] := by
  constructor
  · intro h
    by_contra nonempty
    rw [Request.countOf, if_neg nonempty] at h
    repeat' split at h
    all_goals cases h
  · rintro rfl
    rfl

/-- A text is called negative if a signed integer of 64 bits can be the number that it denotes. -/
lemma countOf_eq_negative {cs : List Char} :
    Request.countOf cs = .error .negative ↔ ∃ n ≤ 2 ^ 63, IsNegative cs n := by
  constructor
  · intro h
    cases cs with
    | nil => cases h
    | cons c ds =>
      by_cases minus : c = '-'
      · subst minus
        rw [countOf_minus] at h
        split at h
        case h_1 n numeral =>
          split_ifs at h with zero small
          · exact ⟨n, small, ds, rfl, decimal?_eq_some.1 numeral, Nat.pos_of_ne_zero zero⟩
          · cases h
        case h_2 => cases h
      · rw [countOf_of_ne_minus (List.cons_ne_nil c ds) (by simpa using minus)] at h
        split at h <;> cases h
  · rintro ⟨n, small, ds, rfl, numeral, positive⟩
    rw [countOf_minus, decimal?_eq_some.2 numeral]
    simp only [if_neg positive.ne', if_pos small]

/-- Whatever is neither empty nor a count nor called negative is called no number. -/
lemma countOf_eq_notDecimal {cs : List Char} :
    Request.countOf cs = .error .notDecimal ↔
      cs ≠ [] ∧ (∀ n, ¬ IsCount cs n) ∧ ∀ n ≤ 2 ^ 63, ¬ IsNegative cs n := by
  constructor
  · intro h
    refine ⟨?_, ?_, ?_⟩
    · rintro rfl
      cases h
    · intro n count
      rw [countOf_eq_ok.2 ((toNat_toUInt64 count.lt).symm ▸ count)] at h
      cases h
    · intro n small negative
      rw [countOf_eq_negative.2 ⟨n, small, negative⟩] at h
      cases h
  · rintro ⟨nonempty, uncounted, unnegative⟩
    cases h : Request.countOf cs with
    | ok n => exact absurd (countOf_eq_ok.1 h) (uncounted _)
    | error fault =>
      cases fault with
      | empty => exact absurd (countOf_eq_empty.1 h) nonempty
      | negative =>
        obtain ⟨n, small, negative⟩ := countOf_eq_negative.1 h
        exact absurd negative (unnegative n small)
      | notDecimal => rfl

lemma parse_eq_fault {s : String} {fault : CountFault} :
    Request.parse s = .error (.invalidCount s fault) ↔
      Request.countOf (trim s.toList) = .error fault := by
  unfold Request.parse
  split
  case h_1 n count => simp [count]
  case h_2 other refused => simp [refused]

/-- The reason for which a text is refused, if it is. -/
structure Refused (s : String) : Prop where
  empty : Request.parse s = .error (.invalidCount s .empty) ↔ trim s.toList = []
  /-- Negative numbers are called so down to the least signed integer of 64 bits, -/
  negative : Request.parse s = .error (.invalidCount s .negative) ↔
    ∃ n ≤ 2 ^ 63, IsNegative (trim s.toList) n
  /-- and everything else that is no count is called no number, the numbers below that one too. -/
  notDecimal : Request.parse s = .error (.invalidCount s .notDecimal) ↔
    trim s.toList ≠ [] ∧ (∀ n, ¬ IsCount (trim s.toList) n) ∧
      ∀ n ≤ 2 ^ 63, ¬ IsNegative (trim s.toList) n

theorem refused (s : String) : Refused s where
  empty := parse_eq_fault.trans countOf_eq_empty
  negative := parse_eq_fault.trans countOf_eq_negative
  notDecimal := parse_eq_fault.trans countOf_eq_notDecimal

/-- What would hold of a text if no negative number was too small to be called one: it is called
negative if it is, and called no number only if it is not negative. -/
structure CalledRightly (s : String) : Prop where
  negative : ∀ n, IsNegative (trim s.toList) n →
    Request.parse s = .error (.invalidCount s .negative)
  notDecimal : Request.parse s = .error (.invalidCount s .notDecimal) →
    ∀ n, ¬ IsNegative (trim s.toList) n

/-- **Why a text is refused.** The reasons are told apart by the text without the white space at its
ends, and a negative number is called one just if it is at least `-2 ^ 63`. -/
theorem reason_of_refusal (s : String) :
    Refused s ∧ (CalledRightly s ↔ ∀ n, IsNegative (trim s.toList) n → n ≤ 2 ^ 63) := by
  refine ⟨refused s, ?_, ?_⟩
  · intro called n negative
    obtain ⟨m, small, other⟩ := (refused s).negative.1 (called.negative n negative)
    rwa [negative.unique other]
  · intro small
    refine ⟨?_, ?_⟩
    · intro n negative
      exact (refused s).negative.2 ⟨n, small n negative, negative⟩
    · intro called n negative
      exact ((refused s).notDecimal.1 called).2.2 n (small n negative) negative

example : Request.countOf "-9223372036854775808".toList = .error .negative := by decide +kernel

/-- **The greatest number that is too small to be called negative.** Both halves of what would hold
fail for it. -/
theorem negative_out_of_range :
    IsNegative (trim "-9223372036854775809".toList) (2 ^ 63 + 1) ∧
      Request.parse "-9223372036854775809" =
        .error (.invalidCount "-9223372036854775809" .notDecimal) ∧
      ¬ ∀ s, CalledRightly s := by
  have trimmed : trim "-9223372036854775809".toList = '-' :: "9223372036854775809".toList := by
    decide +kernel
  have read : decimal? "9223372036854775809".toList = some (2 ^ 63 + 1) := by decide +kernel
  have negative : IsNegative (trim "-9223372036854775809".toList) (2 ^ 63 + 1) :=
    ⟨_, trimmed, decimal?_eq_some.1 read, by decide⟩
  have refused : Request.parse "-9223372036854775809" =
      .error (.invalidCount "-9223372036854775809" .notDecimal) := by
    decide +kernel
  refine ⟨negative, refused, ?_⟩
  intro rightly
  exact (rightly _).notDecimal refused _ negative

end FlowBurst.Burst
