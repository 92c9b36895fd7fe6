/-!
# Decimal integers

The number that a run of ASCII digits denotes, and bounded integers with an optional sign. Leading
zeros are allowed; a sign alone is no integer.
-/

namespace FlowBurst.Text

/-- Whether a character is an ASCII digit. -/
def isDigit (c : Char) : Bool := 48 ≤ c.toNat && c.toNat ≤ 57

/-- The number of an ASCII digit. -/
def digitValue (c : Char) : Nat := c.toNat - 48

/-- The number that digits denote after a numeral of value `acc`. -/
def decimalFrom (acc : Nat) : List Char → Nat
  | [] => acc
  | c :: cs => decimalFrom (acc * 10 + digitValue c) cs

/-- The number that a nonempty run of ASCII digits denotes. -/
def decimal? (cs : List Char) : Option Nat :=
  if cs ≠ [] ∧ cs.all isDigit then some (decimalFrom 0 cs) else none

/-- A number below `2 ^ bits`, with an optional plus sign. -/
def unsigned? (bits : Nat) (cs : List Char) : Option Nat :=
  let digits := match cs with
    | '+' :: rest => rest
    | _ => cs
  (decimal? digits).bind fun n => if n < Nat.pow 2 bits then some n else none

/-- An integer from `-2 ^ (bits - 1)` to below `2 ^ (bits - 1)`, with an optional sign. -/
def signed? (bits : Nat) (cs : List Char) : Option Int :=
  match cs with
  | '-' :: rest =>
    (decimal? rest).bind fun n => if n ≤ Nat.pow 2 (bits - 1) then some (-(n : Int)) else none
  | '+' :: rest =>
    (decimal? rest).bind fun n => if n < Nat.pow 2 (bits - 1) then some (n : Int) else none
  | _ => (decimal? cs).bind fun n => if n < Nat.pow 2 (bits - 1) then some (n : Int) else none

end FlowBurst.Text
