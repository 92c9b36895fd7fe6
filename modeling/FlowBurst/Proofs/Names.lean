import FlowBurst.Proofs.Counts
import FlowBurst.Proofs.Numerals
import FlowBurst.Switch.Identity
import Mathlib.Tactic.Lemma

/-!
# Names identify

The text of a datapath id has one width for all of them, so the order of the texts, byte by byte, is that
of the numbers. The text of a reference begins with that of its datapath, of which every character is
known by its place; whatever is behind the mark is the connection number. Main statement:
`names_identify`.
-/

namespace FlowBurst.Numeral

/-- Two numbers are compared by what they have of a unit, and then by what is left. -/
lemma compare_mul_add {unit a b c d : Nat} (hc : c < unit) (hd : d < unit) :
    compare (unit * a + c) (unit * b + d) = (compare a b).then (compare c d) := by
  rcases Nat.lt_trichotomy a b with less | rfl | more
  · have below : unit * a + c < unit * b + d := by
      have := Nat.mul_le_mul_left unit (Nat.succ_le_of_lt less)
      rw [Nat.mul_succ] at this
      omega
    rw [Nat.compare_eq_lt.2 less, Nat.compare_eq_lt.2 below]
    rfl
  · rw [Nat.compare_eq_eq.2 rfl, Ordering.eq_then]
    simp only [Nat.compare_eq_ite_lt, Nat.add_lt_add_iff_left]
  · have above : unit * b + d < unit * a + c := by
      have := Nat.mul_le_mul_left unit (Nat.succ_le_of_lt more)
      rw [Nat.mul_succ] at this
      omega
    rw [Nat.compare_eq_gt.2 more, Nat.compare_eq_gt.2 above]
    rfl

/-- **Numerals of one width are ordered as what they denote.** -/
theorem compare_digits {base : Nat} (pos : 0 < base) (width m n : Nat) :
    compare (digits base width m) (digits base width n) =
      compare (m % base ^ width) (n % base ^ width) := by
  induction width with
  | zero => simp [digits, Nat.mod_one]
  | succ width ih =>
    have unit := Nat.pow_pos (n := width) pos
    rw [digits_succ, digits_succ, List.compare_cons_cons, ih, Nat.pow_succ, Nat.mod_mul, Nat.mod_mul,
      Nat.add_comm, Nat.add_comm (n % _),
      compare_mul_add (Nat.mod_lt m unit) (Nat.mod_lt n unit)]

end FlowBurst.Numeral

namespace FlowBurst.Text

/-! ### Hexadecimal numerals -/

/-- Whether a character is a digit of a hexadecimal numeral in lower case. -/
def IsHexDigit (c : Char) : Prop := '0' ≤ c ∧ c ≤ '9' ∨ 'a' ≤ c ∧ c ≤ 'f'

instance (c : Char) : Decidable (IsHexDigit c) :=
  inferInstanceAs (Decidable ('0' ≤ c ∧ c ≤ '9' ∨ 'a' ≤ c ∧ c ≤ 'f'))

/-- What a hexadecimal digit stands for. -/
def hexValue (c : Char) : Nat := if c ≤ '9' then c.toNat - 48 else c.toNat - 87

/-- `ds` is a run of so many hexadecimal digits in lower case that denotes `n`. -/
structure IsHex (width : Nat) (ds : List Char) (n : Nat) : Prop where
  length : ds.length = width
  digits : ∀ c ∈ ds, IsHexDigit c
  value : Numeral.value 16 (ds.map hexValue) = n

/-- The bytes of a text. -/
def bytes (s : String) : List UInt8 := s.toUTF8.data.toList

section Hex

lemma isHexDigit_hexDigit : ∀ d < 16, IsHexDigit (hexDigit d) := by decide

lemma hexValue_hexDigit : ∀ d < 16, hexValue (hexDigit d) = d := by decide

/-- The digits of a numeral are told from one another by their bytes, and ordered by them. -/
lemma compare_hexDigit : ∀ d < 16, ∀ e < 16,
    compare (UInt8.ofNat (hexDigit d).toNat) (UInt8.ofNat (hexDigit e).toNat) = compare d e := by
  decide

/-- A hexadecimal digit is the one of what it stands for. -/
lemma hexDigit_hexValue {c : Char} (h : IsHexDigit c) : hexValue c < 16 ∧ hexDigit (hexValue c) = c := by
  have place {d e : Char} : d ≤ e ↔ d.toNat ≤ e.toNat := Iff.rfl
  have zero : '0'.toNat = 48 := rfl
  have nine : '9'.toNat = 57 := rfl
  have a : 'a'.toNat = 97 := rfl
  have f : 'f'.toNat = 102 := rfl
  unfold IsHexDigit at h
  simp only [place] at h
  unfold hexValue hexDigit
  simp only [place]
  split
  next decimal =>
    rw [if_pos (by omega), show 48 + (c.toNat - 48) = c.toNat by omega, Char.ofNat_toNat]
    exact ⟨by omega, rfl⟩
  next letter =>
    rw [if_neg (by omega), show 87 + (c.toNat - 87) = c.toNat by omega, Char.ofNat_toNat]
    exact ⟨by omega, rfl⟩

/-- The digits that are written for a number are a numeral of it, as far as the width goes. -/
lemma isHex_hexDigits (width n : Nat) : IsHex width (hexDigits width n) (n % 16 ^ width) where
  length := length_hexDigits width n
  digits c hc := by
    obtain ⟨d, hd, rfl⟩ := List.mem_map.1 hc
    exact isHexDigit_hexDigit d (Numeral.lt_of_mem_digits (by decide) hd)
  value := by
    have back : (hexDigits width n).map hexValue = Numeral.digits 16 width n := by
      unfold hexDigits
      rw [List.map_map]
      refine (List.map_congr_left fun d hd => ?_).trans (List.map_id _)
      exact hexValue_hexDigit d (Numeral.lt_of_mem_digits (by decide) hd)
    rw [back, Numeral.value_digits]

/-- **There is one numeral of each width** for a number. -/
lemma IsHex.eq_hexDigits {width n : Nat} {ds : List Char} (h : IsHex width ds n) :
    ds = hexDigits width n := by
  have values : ∀ d ∈ ds.map hexValue, d < 16 := by
    intro d hd
    obtain ⟨c, hc, rfl⟩ := List.mem_map.1 hd
    exact (hexDigit_hexValue (h.digits c hc)).1
  have written := Numeral.digits_value values
  rw [List.length_map, h.length, h.value] at written
  unfold hexDigits
  rw [written, List.map_map]
  exact ((List.map_congr_left fun c hc => (hexDigit_hexValue (h.digits c hc)).2).trans
    (List.map_id _)).symm

end Hex

/-! ### Bytes -/

section Bytes

/-- A list is compared as its image under whatever keeps the order. -/
lemma compare_map {α β : Type} [Ord α] [Ord β] {f : α → β} {p : α → Prop}
    (keeps : ∀ a, p a → ∀ b, p b → compare (f a) (f b) = compare a b) :
    ∀ {xs ys : List α}, (∀ a ∈ xs, p a) → (∀ b ∈ ys, p b) →
      compare (xs.map f) (ys.map f) = compare xs ys
  | [], [], _, _ => rfl
  | [], _ :: _, _, _ => rfl
  | _ :: _, [], _, _ => rfl
  | x :: xs, y :: ys, hx, hy => by
    rw [List.map_cons, List.map_cons, List.compare_cons_cons, List.compare_cons_cons,
      keeps x (hx x List.mem_cons_self) y (hy y List.mem_cons_self),
      compare_map keeps (fun a h => hx a (List.mem_cons_of_mem x h))
        (fun b h => hy b (List.mem_cons_of_mem y h))]

/-- A character of ASCII is one byte. -/
lemma bytes_of_ascii {cs : List Char} (ascii : ∀ c ∈ cs, c.toNat ≤ 127) :
    bytes (String.ofList cs) = cs.map fun c => UInt8.ofNat c.toNat := by
  unfold bytes
  rw [String.toUTF8_eq_toByteArray, String.toByteArray_ofList, List.utf8Encode,
    List.toList_data_toByteArray]
  induction cs with
  | nil => rfl
  | cons c cs ih =>
    have one : String.utf8EncodeChar c = [UInt8.ofNat c.toNat] := if_pos (ascii c List.mem_cons_self)
    rw [List.flatMap_cons, one, ih fun d hd => ascii d (List.mem_cons_of_mem c hd)]
    rfl

lemma ascii_hexDigit : ∀ d < 16, (hexDigit d).toNat ≤ 127 := by decide

/-- **Numbers are ordered as the bytes of their hexadecimal texts**, as far as the width goes. -/
lemma compare_hex (width m n : Nat) :
    compare (bytes (hex width m)) (bytes (hex width n)) =
      compare (m % 16 ^ width) (n % 16 ^ width) := by
  have small (n : Nat) : ∀ d ∈ Numeral.digits 16 width n, d < 16 := fun d hd =>
    Numeral.lt_of_mem_digits (by decide) hd
  have written (n : Nat) : bytes (hex width n) =
      48 :: 120 :: (Numeral.digits 16 width n).map fun d => UInt8.ofNat (hexDigit d).toNat := by
    unfold hex hexDigits
    rw [bytes_of_ascii, List.map_cons, List.map_cons, List.map_map]
    · rfl
    · intro c hc
      simp only [List.mem_cons, List.mem_map] at hc
      rcases hc with rfl | rfl | ⟨d, hd, rfl⟩
      · decide
      · decide
      · exact ascii_hexDigit d (small n d hd)
  rw [written, written, List.compare_cons_cons, List.compare_cons_cons,
    compare_map compare_hexDigit (small m) (small n), Numeral.compare_digits (by decide)]
  rfl

end Bytes

end FlowBurst.Text

namespace FlowBurst.Switch

open FlowBurst.Text

/-! ### Datapath ids and references -/

/-- What the text of a datapath id is. -/
structure DatapathId.Named (d : DatapathId) : Prop where
  hex : ∃ ds, d.text.toList = '0' :: 'x' :: ds ∧ IsHex 16 ds d.value.toNat
  /-- No other text is one of that number. -/
  only : ∀ ds, IsHex 16 ds d.value.toNat → d.text.toList = '0' :: 'x' :: ds

/-- What the text of a reference is: that of its datapath, a mark and the number of its connection. -/
structure Reference.Named (r : Reference) : Prop where
  datapath : r.text.toList.take 18 = r.datapath.text.toList
  mark : r.text.toList[18]? = some '#'
  connection : IsNumeral (r.text.toList.drop 19) r.connection.toNat

section Texts

variable {d e : DatapathId} {r q : Reference}

lemma DatapathId.value_lt (d : DatapathId) : d.value.toNat % 16 ^ 16 = d.value.toNat :=
  Nat.mod_eq_of_lt d.value.toNat_lt

lemma DatapathId.toList_text (d : DatapathId) :
    d.text.toList = '0' :: 'x' :: hexDigits 16 d.value.toNat := String.toList_ofList

lemma DatapathId.length_text (d : DatapathId) : d.text.toList.length = 18 := by
  rw [toList_text, List.length_cons, List.length_cons, length_hexDigits]

lemma DatapathId.named (d : DatapathId) : d.Named where
  hex := by
    refine ⟨_, d.toList_text, ?_⟩
    have written := isHex_hexDigits 16 d.value.toNat
    rwa [d.value_lt] at written
  only ds h := by rw [d.toList_text, h.eq_hexDigits]

/-- **The order of the texts** of datapath ids is that of the ids. -/
lemma DatapathId.compare_text (d e : DatapathId) :
    Ord.compare (bytes d.text) (bytes e.text) = d.compare e := by
  refine (compare_hex 16 d.value.toNat e.value.toNat).trans ?_
  rw [d.value_lt, e.value_lt]
  rfl

lemma DatapathId.compare_eq_eq : d.compare e = .eq ↔ d = e := by
  obtain ⟨m⟩ := d
  obtain ⟨n⟩ := e
  unfold DatapathId.compare
  rw [Nat.compare_eq_eq, UInt64.toNat_inj, DatapathId.mk.injEq]

lemma DatapathId.text_inj : d.text = e.text ↔ d = e := by
  refine ⟨fun same => ?_, fun same => by rw [same]⟩
  rw [← compare_eq_eq, ← compare_text, same, compare_text, compare_eq_eq]

lemma Reference.toList_text (r : Reference) :
    r.text.toList = r.datapath.text.toList ++ '#' :: r.connection.toNat.repr.toList := by
  unfold Reference.text
  rw [String.toList_append, String.toList_append, List.append_assoc]
  rfl

lemma Reference.named (r : Reference) : r.Named where
  datapath := by
    rw [toList_text]
    exact List.take_left' r.datapath.length_text
  mark := by
    rw [toList_text, List.getElem?_append_right (Nat.le_of_eq r.datapath.length_text),
      r.datapath.length_text]
    rfl
  connection := by
    have behind : r.text.toList.drop 19 = r.connection.toNat.repr.toList := by
      rw [toList_text, List.append_cons]
      exact List.drop_left' (by rw [List.length_append, r.datapath.length_text]; rfl)
    rw [behind]
    exact isNumeral_repr _

/-- References are told from one another by what is at the places of their texts. -/
lemma Reference.text_inj : r.text = q.text ↔ r = q := by
  refine ⟨fun same => ?_, fun same => by rw [same]⟩
  have datapath : r.datapath = q.datapath := by
    rw [← DatapathId.text_inj, ← String.toList_inj, ← r.named.datapath, same, q.named.datapath]
  have connection : r.connection = q.connection := by
    rw [← UInt64.toNat_inj, ← r.named.connection.value, same, q.named.connection.value]
  obtain ⟨d, n⟩ := r
  obtain ⟨e, k⟩ := q
  cases datapath
  cases connection
  rfl

/-- **Names identify**: the text of a datapath id is `0x` and the one numeral of sixteen hexadecimal
digits that denotes it, and these texts are ordered as the ids; the text of a reference shows the two
parts of it. -/
theorem names_identify :
    (∀ d : DatapathId, d.Named) ∧
      (∀ d e : DatapathId, (d.text = e.text ↔ d = e) ∧
        Ord.compare (bytes d.text) (bytes e.text) = d.compare e) ∧
      ∀ r : Reference, r.Named ∧ ∀ q, r.text = q.text ↔ r = q :=
  ⟨DatapathId.named, fun d e => ⟨DatapathId.text_inj, d.compare_text e⟩,
    fun r => ⟨r.named, fun _ => Reference.text_inj⟩⟩

end Texts

end FlowBurst.Switch
