import FlowBurst.Burst.Request
import Mathlib.Algebra.Group.Nat.Defs
import Mathlib.Data.List.TakeWhile
import Mathlib.Tactic.Lemma

/-!
# Which texts are counts

A text without the white space at its ends is determined by what it was cut out of, and a numeral
by its digits; so the two integer readers that a count passes through one after the other amount to
one grammar: digits below `2 ^ 64` with or without a plus sign, or a minus sign before zeros. Main
statement: `Burst.counts_read`.
-/

namespace FlowBurst.Text

/-! ### White space at the ends -/

/-- `t` is the text `cs` without the white space at its two ends. -/
structure IsTrim (cs t : List Char) : Prop where
  cut : ∃ lead trail, cs = lead ++ (t ++ trail) ∧ (∀ c ∈ lead, isBlank c = true) ∧
    ∀ c ∈ trail, isBlank c = true
  head : ∀ c ∈ t.head?, isBlank c = false
  last : ∀ c ∈ t.getLast?, isBlank c = false

lemma trimEnd_cons (c : Char) (cs : List Char) :
    trimEnd (c :: cs) = if trimEnd cs = [] ∧ isBlank c = true then [] else c :: trimEnd cs := by
  rw [trimEnd]
  cases trimEnd cs with
  | nil => by_cases blank : isBlank c = true <;> simp [blank]
  | cons d ds => simp

lemma trimEnd_of_blank {cs : List Char} (blank : ∀ c ∈ cs, isBlank c = true) : trimEnd cs = [] := by
  induction cs with
  | nil => rfl
  | cons c cs ih =>
    have rest := ih fun d member => blank d (List.mem_cons_of_mem c member)
    rw [trimEnd_cons, if_pos ⟨rest, blank c List.mem_cons_self⟩]

lemma trimEnd_append {cs trail : List Char} (blank : ∀ c ∈ trail, isBlank c = true) :
    trimEnd (cs ++ trail) = trimEnd cs := by
  induction cs with
  | nil => exact trimEnd_of_blank blank
  | cons c cs ih => rw [List.cons_append, trimEnd_cons, trimEnd_cons, ih]

lemma trimEnd_of_last {cs : List Char} (dark : ∀ c ∈ cs.getLast?, isBlank c = false) :
    trimEnd cs = cs := by
  induction cs with
  | nil => rfl
  | cons c cs ih =>
    cases cs with
    | nil =>
      have last := dark c rfl
      simp [trimEnd, last]
    | cons d ds =>
      have rest := ih fun e last => dark e (by rwa [List.getLast?_cons_cons])
      rw [trimEnd_cons, rest, if_neg fun nothing => List.cons_ne_nil d ds nothing.1]

/-- What `trimEnd` leaves is a front of the text, and only white space is behind it. -/
lemma trimEnd_cut (cs : List Char) :
    ∃ trail, cs = trimEnd cs ++ trail ∧ ∀ c ∈ trail, isBlank c = true := by
  induction cs with
  | nil => exact ⟨[], rfl, fun c member => absurd member List.not_mem_nil⟩
  | cons c cs ih =>
    obtain ⟨trail, cut, blank⟩ := ih
    rw [trimEnd_cons]
    split
    next nothing =>
      rw [nothing.1, List.nil_append] at cut
      refine ⟨c :: cs, rfl, fun d member => ?_⟩
      rcases List.mem_cons.1 member with rfl | member
      · exact nothing.2
      · exact blank d (cut ▸ member)
    next => exact ⟨trail, by rw [List.cons_append, ← cut], blank⟩

lemma last_trimEnd (cs : List Char) : ∀ c ∈ (trimEnd cs).getLast?, isBlank c = false := by
  induction cs with
  | nil => exact fun c last => absurd last (by simp [trimEnd])
  | cons d cs ih =>
    rw [trimEnd_cons]
    split
    next => exact fun c last => absurd last (by simp)
    next something =>
      cases rest : trimEnd cs with
      | nil =>
        rw [rest] at something
        have dark : isBlank d = false := Bool.eq_false_iff.2 fun blank => something ⟨rfl, blank⟩
        simp [dark]
      | cons e es =>
        rw [List.getLast?_cons_cons, ← rest]
        exact ih

lemma trim_of_isTrim {cs t : List Char} (h : IsTrim cs t) : trim cs = t := by
  obtain ⟨lead, trail, rfl, lead_blank, trail_blank⟩ := h.cut
  rw [trim, List.dropWhile_append_of_pos lead_blank]
  cases t with
  | nil =>
    rw [List.nil_append, List.dropWhile_eq_nil_iff.2 trail_blank]
    rfl
  | cons c cs =>
    have dark := h.head c rfl
    rw [List.cons_append, List.dropWhile_cons_of_neg (by simp [dark]), ← List.cons_append,
      trimEnd_append trail_blank, trimEnd_of_last h.last]

theorem isTrim_trim (cs : List Char) : IsTrim cs (trim cs) := by
  obtain ⟨trail, cut, trail_blank⟩ := trimEnd_cut (cs.dropWhile isBlank)
  refine ⟨⟨cs.takeWhile isBlank, trail, ?_, fun c lead => List.mem_takeWhile_imp lead, trail_blank⟩,
    fun c head => ?_, last_trimEnd _⟩
  · rw [trim, ← cut, List.takeWhile_append_dropWhile]
  · -- the head of what is left is the head of the text behind the white space in front of it
    have same : (cs.dropWhile isBlank).head? = some c := by
      rw [cut, List.head?_append, show (trimEnd (cs.dropWhile isBlank)).head? = some c from head]
      rfl
    have dark := List.head?_dropWhile_not isBlank cs
    rw [same] at dark
    simpa using dark

/-- A text without white space is its own trim. -/
lemma trim_eq_self {t : List Char} (dark : ∀ c ∈ t, isBlank c = false) : trim t = t :=
  trim_of_isTrim ⟨⟨[], [], by simp, by simp, by simp⟩, fun c head => dark c (List.mem_of_head? head),
    fun c last => dark c (List.mem_of_getLast? last)⟩

/-! ### Numerals -/

/-- `ds` is a nonempty run of ASCII digits, with leading zeros or not, that denotes `n`. -/
structure IsNumeral (ds : List Char) (n : Nat) : Prop where
  nonempty : ds ≠ []
  digits : ∀ c ∈ ds, c.isDigit = true
  value : Nat.ofDigitChars 10 ds 0 = n

lemma isDigit_eq (c : Char) : isDigit c = c.isDigit := by
  rw [Bool.eq_iff_iff]
  simp [isDigit, Char.isDigit_iff_toNat]

lemma decimalFrom_eq (acc : Nat) (cs : List Char) :
    decimalFrom acc cs = Nat.ofDigitChars 10 cs acc := by
  induction cs generalizing acc with
  | nil => rfl
  | cons c cs ih =>
    have next : acc * 10 + digitValue c = 10 * acc + (c.toNat - '0'.toNat) := by
      rw [Nat.mul_comm]
      rfl
    calc decimalFrom acc (c :: cs)
        = decimalFrom (acc * 10 + digitValue c) cs := rfl
      _ = Nat.ofDigitChars 10 cs (10 * acc + (c.toNat - '0'.toNat)) := by rw [ih, next]
      _ = Nat.ofDigitChars 10 (c :: cs) acc := Nat.ofDigitChars_cons.symm

lemma decimal?_eq_some {ds : List Char} {n : Nat} : decimal? ds = some n ↔ IsNumeral ds n := by
  simp only [decimal?, Option.ite_none_right_eq_some, List.all_eq_true, isDigit_eq, decimalFrom_eq,
    Option.some.injEq]
  exact ⟨fun h => ⟨h.1.1, h.1.2, h.2⟩, fun h => ⟨⟨h.nonempty, h.digits⟩, h.value⟩⟩

lemma IsNumeral.not_sign {c : Char} {ds : List Char} {n : Nat} (h : IsNumeral (c :: ds) n) :
    c ≠ '+' ∧ c ≠ '-' := by
  have digit := h.digits c List.mem_cons_self
  constructor <;> rintro rfl <;> exact absurd digit (by decide)

lemma eq_zero_of_value {ds : List Char} (digits : ∀ c ∈ ds, c.isDigit = true)
    (value : Nat.ofDigitChars 10 ds 0 = 0) : ∀ c ∈ ds, c = '0' := by
  induction ds with
  | nil => exact fun c member => absurd member List.not_mem_nil
  | cons d ds ih =>
    rw [Nat.ofDigitChars_cons, Nat.ofDigitChars_eq_ofDigitChars_zero] at value
    obtain ⟨first, others⟩ := Nat.add_eq_zero_iff.1 value
    have low := (Char.isDigit_iff_toNat.1 (digits d List.mem_cons_self)).1
    have zero : d.toNat - '0'.toNat = 0 := by
      rcases Nat.mul_eq_zero.1 first with power | digit
      · exact absurd power (Nat.pow_pos (by decide)).ne'
      · omega
    intro c member
    rcases List.mem_cons.1 member with rfl | member
    · exact Char.toNat_inj.1 (by omega)
    · exact ih (fun e other => digits e (List.mem_cons_of_mem d other)) others c member

/-- The numerals of zero are the runs of zeros. -/
lemma isNumeral_zero {ds : List Char} :
    IsNumeral ds 0 ↔ ∃ k, ds = List.replicate (k + 1) '0' := by
  constructor
  · intro h
    have nonempty : 0 < ds.length := List.length_pos_iff.2 h.nonempty
    refine ⟨ds.length - 1, ?_⟩
    rw [Nat.sub_add_cancel nonempty]
    exact List.eq_replicate_of_mem (eq_zero_of_value h.digits h.value)
  · rintro ⟨k, rfl⟩
    refine ⟨by simp, fun c member => ?_, by simp [Nat.ofDigitChars_replicate_zero]⟩
    rw [List.eq_of_mem_replicate member]
    decide

/-- The decimal text of a number is a numeral of it. -/
lemma isNumeral_repr (n : Nat) : IsNumeral n.repr.toList n := by
  rw [Nat.toList_repr]
  exact ⟨Nat.toDigits_ne_nil, fun c => Nat.isDigit_of_mem_toDigits (by decide) (by decide),
    Nat.ofDigitChars_toDigits (by decide) (by decide)⟩

end FlowBurst.Text

namespace FlowBurst.Burst

open FlowBurst.Text

/-- The texts that are counts, each with the number that it denotes. -/
inductive IsCount : List Char → Nat → Prop
  | plain {ds : List Char} {n : Nat} : IsNumeral ds n → n ≤ 2 ^ 64 - 1 → IsCount ds n
  | plus {ds : List Char} {n : Nat} : IsNumeral ds n → n ≤ 2 ^ 64 - 1 → IsCount ('+' :: ds) n
  | minus (k : Nat) : IsCount ('-' :: List.replicate (k + 1) '0') 0

/-! ### The two readers in turn -/

lemma decimal?_minus (ds : List Char) : decimal? ('-' :: ds) = none := by
  refine Option.eq_none_iff_forall_ne_some.2 fun n h => ?_
  exact (decimal?_eq_some.1 h).not_sign.2 rfl

/-- What a signed integer reads without a minus sign, an unsigned integer of its width reads. -/
lemma unsigned?_of_signed? {bits : Nat} {cs : List Char} {z : Int} (unminus : cs.head? ≠ some '-')
    (h : signed? bits cs = some z) : ∃ n, unsigned? bits cs = some n := by
  have wider : 2 ^ (bits - 1) ≤ 2 ^ bits := Nat.pow_le_pow_right (by decide) (Nat.sub_le bits 1)
  unfold signed? at h
  split at h
  next => exact absurd rfl unminus
  next rest _ =>
    obtain ⟨n, numeral, bounded⟩ := Option.bind_eq_some_iff.1 h
    split at bounded
    next below => exact ⟨n, by simp [unsigned?, numeral, Nat.lt_of_lt_of_le below wider]⟩
    next => exact absurd bounded (by simp)
  next no_minus no_plus =>
    obtain ⟨n, numeral, bounded⟩ := Option.bind_eq_some_iff.1 h
    split at bounded
    next below =>
      refine ⟨n, ?_⟩
      unfold unsigned?
      split
      next rest => exact absurd rfl (no_plus rest)
      next => simp [numeral, Nat.lt_of_lt_of_le below wider]
    next => exact absurd bounded (by simp)

lemma below_eq_some {ds : List Char} {n bound : Nat} :
    ((decimal? ds).bind fun m => if m < bound then some m else none) = some n ↔
      IsNumeral ds n ∧ n < bound := by
  rw [Option.bind_eq_some_iff]
  constructor
  · rintro ⟨m, numeral, bounded⟩
    split at bounded
    next below =>
      cases bounded
      exact ⟨decimal?_eq_some.1 numeral, below⟩
    next => exact absurd bounded (by simp)
  · rintro ⟨numeral, below⟩
    exact ⟨n, decimal?_eq_some.2 numeral, if_pos below⟩

/-- An unsigned integer is a numeral with or without a plus sign, below the bound of its width. -/
lemma unsigned?_eq_some {bits n : Nat} {cs : List Char} :
    unsigned? bits cs = some n ↔
      (IsNumeral cs n ∨ ∃ ds, cs = '+' :: ds ∧ IsNumeral ds n) ∧ n < 2 ^ bits := by
  unfold unsigned?
  split
  next rest =>
    rw [below_eq_some]
    refine and_congr_left fun _ => ⟨fun numeral => .inr ⟨rest, rfl, numeral⟩, ?_⟩
    rintro (numeral | ⟨ds, same, numeral⟩)
    · exact absurd rfl numeral.not_sign.1
    · cases same
      exact numeral
  next unplus =>
    rw [below_eq_some]
    refine and_congr_left fun _ => ⟨.inl, ?_⟩
    rintro (numeral | ⟨ds, rfl, -⟩)
    · exact numeral
    · exact absurd rfl (unplus ds)

/-- Behind a minus sign only zero is a count, and what is too small for a signed integer is none. -/
lemma countOf_minus (ds : List Char) :
    Request.countOf ('-' :: ds) =
      match decimal? ds with
      | some n => if n = 0 then .ok 0 else .error (if n ≤ 2 ^ 63 then .negative else .notDecimal)
      | none => .error .notDecimal := by
  have unsigned : unsigned? 64 ('-' :: ds) = none := by simp [unsigned?, decimal?_minus]
  rw [Request.countOf, if_neg (List.cons_ne_nil _ _), unsigned]
  cases numeral : decimal? ds with
  | none => simp [signed?, numeral]
  | some n =>
    have signed : signed? 64 ('-' :: ds) = if n ≤ 2 ^ 63 then some (-(n : Int)) else none := by
      rw [signed?, numeral]
      rfl
    by_cases small : n ≤ 2 ^ 63
    · simp only [signed, if_pos small, Int.neg_eq_zero, Int.natCast_eq_zero]
    · have positive : n ≠ 0 := fun zero => small (zero ▸ Nat.zero_le _)
      simp only [signed, if_neg small, if_neg positive]

lemma countOf_of_ne_minus {cs : List Char} (nonempty : cs ≠ []) (unminus : cs.head? ≠ some '-') :
    Request.countOf cs =
      match unsigned? 64 cs with
      | some n => .ok n.toUInt64
      | none => .error .notDecimal := by
  rw [Request.countOf, if_neg nonempty]
  cases unsigned : unsigned? 64 cs with
  | some n => rfl
  | none =>
    cases signed : signed? 64 cs with
    | none => rfl
    | some z =>
      obtain ⟨n, read⟩ := unsigned?_of_signed? unminus signed
      rw [unsigned] at read
      exact absurd read (by simp)

/-- A text that begins with no minus sign is a count exactly if an unsigned integer is read. -/
lemma isCount_iff_unsigned {cs : List Char} {n : Nat} (unminus : cs.head? ≠ some '-') :
    IsCount cs n ↔ unsigned? 64 cs = some n := by
  rw [unsigned?_eq_some]
  constructor
  · rintro (⟨numeral, fits⟩ | ⟨numeral, fits⟩ | k)
    · exact ⟨.inl numeral, Nat.lt_of_le_pred (by decide) fits⟩
    · exact ⟨.inr ⟨_, rfl, numeral⟩, Nat.lt_of_le_pred (by decide) fits⟩
    · exact absurd rfl unminus
  · rintro ⟨numeral | ⟨ds, rfl, numeral⟩, below⟩
    · exact .plain numeral (Nat.le_pred_of_lt below)
    · exact .plus numeral (Nat.le_pred_of_lt below)

lemma isCount_minus {ds : List Char} {n : Nat} :
    IsCount ('-' :: ds) n ↔ n = 0 ∧ decimal? ds = some 0 := by
  rw [decimal?_eq_some, isNumeral_zero]
  constructor
  · intro h
    cases h with
    | plain h => exact absurd rfl h.not_sign.2
    | minus k => exact ⟨rfl, k, rfl⟩
  · rintro ⟨rfl, k, rfl⟩
    exact .minus k

/-- A number that fits into an unsigned integer is what that denotes. -/
lemma toNat_toUInt64 {n : Nat} (fits : n < 2 ^ 64) : n.toUInt64.toNat = n := by
  simpa using Nat.mod_eq_of_lt fits

/-- The count of a text is the number that the grammar gives it. -/
theorem countOf_eq_ok {cs : List Char} {n : UInt64} :
    Request.countOf cs = .ok n ↔ IsCount cs n.toNat := by
  cases cs with
  | nil =>
    have uncounted : ¬ IsCount [] n.toNat := fun count => by
      cases count with
      | plain numeral => exact numeral.nonempty rfl
    simp [Request.countOf, uncounted]
  | cons c ds =>
    by_cases minus : c = '-'
    · subst minus
      rw [countOf_minus, isCount_minus, ← UInt64.toNat_zero, UInt64.toNat_inj]
      cases decimal? ds with
      | none => simp
      | some m => by_cases zero : m = 0 <;> simp [zero, eq_comm]
    · have unminus : (c :: ds).head? ≠ some '-' := by simpa using minus
      rw [countOf_of_ne_minus (List.cons_ne_nil c ds) unminus, isCount_iff_unsigned unminus]
      cases read : unsigned? 64 (c :: ds) with
      | none => simp
      | some m =>
        have back := toNat_toUInt64 (unsigned?_eq_some.1 read).2
        simp only [Except.ok.injEq, Option.some.injEq, ← UInt64.toNat_inj, back]

/-! ### Requests -/

/-- What reading a request from a text comes to. -/
structure Counted (s : String) : Prop where
  /-- White space at the two ends does not count. -/
  trimmed : IsTrim s.toList (trim s.toList)
  accepts : ∀ r, Request.parse s = .ok r ↔
    r.kind = .setConfig ∧ IsCount (trim s.toList) r.count.toNat
  /-- Every other text is refused, with the text as it was given. -/
  refuses : (∃ fault, Request.parse s = .error (.invalidCount s fault)) ↔
    ∀ n, ¬ IsCount (trim s.toList) n

lemma IsCount.lt {cs : List Char} {n : Nat} (h : IsCount cs n) : n < 2 ^ 64 := by
  cases h with
  | plain _ fits | plus _ fits => exact Nat.lt_of_le_pred (by decide) fits
  | minus k => decide

lemma parse_eq_ok {s : String} {r : Request} :
    Request.parse s = .ok r ↔ r.kind = .setConfig ∧ IsCount (trim s.toList) r.count.toNat := by
  rw [← countOf_eq_ok, Request.parse]
  obtain ⟨kind, count⟩ := r
  cases Request.countOf (trim s.toList) with
  | ok n => simp [eq_comm]
  | error fault => simp

lemma parse_eq_error {s : String} {e : RequestError} (h : Request.parse s = .error e) :
    ∃ fault, e = .invalidCount s fault := by
  unfold Request.parse at h
  split at h
  next => exact absurd h (by simp)
  next fault _ => exact ⟨fault, (Except.error.inj h).symm⟩

theorem counted (s : String) : Counted s := by
  refine ⟨isTrim_trim s.toList, fun r => parse_eq_ok, ?_, fun uncounted => ?_⟩
  · rintro ⟨fault, refused⟩ n count
    have accepted : Request.parse s = .ok { count := n.toUInt64 } := by
      refine parse_eq_ok.2 ⟨rfl, ?_⟩
      rwa [toNat_toUInt64 count.lt]
    rw [refused] at accepted
    exact absurd accepted (by simp)
  · cases parsed : Request.parse s with
    | ok r => exact absurd (parse_eq_ok.1 parsed).2 (uncounted _)
    | error e =>
      obtain ⟨fault, rfl⟩ := parse_eq_error parsed
      exact ⟨fault, rfl⟩

/-! ### Printed numbers -/

lemma isBlank_of_isDigit {c : Char} (h : c.isDigit = true) : isBlank c = false := by
  obtain ⟨low, high⟩ := Char.isDigit_iff_toNat.1 h
  have zero : '0'.toNat = 48 := rfl
  have nine : '9'.toNat = 57 := rfl
  simp [isBlank]
  omega

lemma trim_repr (n : Nat) : trim n.repr.toList = n.repr.toList :=
  trim_eq_self fun c member => isBlank_of_isDigit ((isNumeral_repr n).digits c member)

lemma parse_repr {n : Nat} (fits : n < 2 ^ 64) :
    Request.parse n.repr = .ok { count := n.toUInt64 } := by
  refine parse_eq_ok.2 ⟨rfl, ?_⟩
  rw [trim_repr, toNat_toUInt64 fits]
  exact .plain (isNumeral_repr n) (Nat.le_pred_of_lt fits)

lemma parse_negative {n : Nat} (small : n < 2 ^ 63) :
    Request.parse ("-" ++ (n + 1).repr) =
      .error (.invalidCount ("-" ++ (n + 1).repr) .negative) := by
  have text : ("-" ++ (n + 1).repr).toList = '-' :: (n + 1).repr.toList := by simp
  have trimmed : trim ('-' :: (n + 1).repr.toList) = '-' :: (n + 1).repr.toList := by
    refine trim_eq_self fun c member => ?_
    rcases List.mem_cons.1 member with rfl | member
    · decide
    · exact isBlank_of_isDigit ((isNumeral_repr (n + 1)).digits c member)
  have least : n + 1 ≤ 2 ^ 63 := Nat.succ_le_of_lt small
  rw [Request.parse, text, trimmed, countOf_minus, decimal?_eq_some.2 (isNumeral_repr (n + 1))]
  simp only [if_pos least, if_neg (Nat.succ_ne_zero n)]

/-- The texts of counts are those of one grammar. Reading undoes printing, and a signed number is
taken or refused as its text is. -/
theorem counts_read :
    (∀ s : String, Counted s) ∧
      (∀ n : UInt64, Request.parse (toString n) = .ok { count := n }) ∧
      ∀ c : Int64, Request.parse (toString c) = Request.ofInt c.toInt := by
  refine ⟨counted, fun n => ?_, fun c => ?_⟩
  · have back : n.toNat.toUInt64 = n := UInt64.ofNat_toNat
    have read := parse_repr n.toNat_lt
    rwa [back] at read
  · have low := c.le_toInt
    have high := c.toInt_lt
    show Request.parse c.toInt.repr = Request.ofInt c.toInt
    cases sign : c.toInt with
    | ofNat n =>
      have fits : n < 2 ^ 64 := by
        rw [sign, Int.ofNat_eq_natCast] at high
        omega
      have natural : ¬ Int.ofNat n < 0 := Int.not_lt.2 (Int.natCast_nonneg n)
      rw [Request.ofInt, if_neg natural]
      exact parse_repr fits
    | negSucc n =>
      have small : n < 2 ^ 63 := by
        rw [sign] at low
        omega
      rw [Request.ofInt, if_pos (Int.negSucc_lt_zero n)]
      exact parse_negative small

example : Request.countOf "-00".toList = .ok 0 := by decide

example : Request.countOf "18446744073709551616".toList = .error .notDecimal := by decide +kernel

end FlowBurst.Burst
