/-!
# Readers

A reader takes a value off the front of a text and gives the rest, or does not find one there.
-/

namespace FlowBurst.Text

/-- A reader takes a value off the front of a text. -/
abbrev Reader (α : Type) := List Char → Option (α × List Char)

/-- A given character. -/
def char (c : Char) : Reader Unit
  | d :: rest => if d = c then some ((), rest) else none
  | [] => none

/-- Given characters, one after another. -/
def chars : List Char → Reader Unit
  | [], cs => some ((), cs)
  | c :: expected, cs => do
    let (_, cs) ← char c cs
    chars expected cs

/-- The number of a digit to a base of at most sixteen. -/
def digit? (base : Nat) (c : Char) : Option Nat :=
  let n := c.toNat
  let d :=
    if 48 ≤ n ∧ n ≤ 57 then n - 48
    else if 97 ≤ n ∧ n ≤ 102 then n - 87
    else if 65 ≤ n ∧ n ≤ 70 then n - 55
    else 16
  if d < base then some d else none

/-- The digits at the front of a text, and the rest. -/
def digits (base : Nat) : List Char → List Nat × List Char
  | [] => ([], [])
  | c :: cs =>
    match digit? base c with
    | none => ([], c :: cs)
    | some d =>
      let (ds, rest) := digits base cs
      (d :: ds, rest)

/-- Exactly so many digits, as a number. -/
def fixedDigits (base : Nat) : (count : Nat) → (value : Nat) → Reader Nat
  | 0, n, cs => some (n, cs)
  | _ + 1, _, [] => none
  | count + 1, n, c :: cs => do
    let d ← digit? base c
    fixedDigits base count (n * base + d) cs

end FlowBurst.Text
