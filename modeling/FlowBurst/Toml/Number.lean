import FlowBurst.Text.Reader
import FlowBurst.Toml.Item

/-!
# Numbers and dates

Integers of 64 bits to four bases, floating-point numbers, and dates and times of the calendar.
Single underscores may stand between digits.
-/

namespace FlowBurst.Toml

open FlowBurst.Text (Reader digit?)

/-! ### Integers -/

/-- Further digits at the front of a text, an underscore possibly in front of each. -/
def moreDigits (base : Nat) : List Char → List Nat × List Char
  | '_' :: c :: rest =>
    match digit? base c with
    | some d =>
      let (ds, rest) := moreDigits base rest
      (d :: ds, rest)
    | none => ([], '_' :: c :: rest)
  | c :: rest =>
    match digit? base c with
    | some d =>
      let (ds, rest) := moreDigits base rest
      (d :: ds, rest)
    | none => ([], c :: rest)
  | [] => ([], [])

/-- A run of digits. -/
def digitRun (base : Nat) : Reader (List Nat)
  | c :: rest => do
    let d ← digit? base c
    let (ds, rest) := moreDigits base rest
    return (d :: ds, rest)
  | [] => none

/-- The number that digits denote. -/
def valueOf (base : Nat) (ds : List Nat) : Nat := ds.foldl (fun n d => n * base + d) 0

/-- A sign, and whether it is a minus sign. -/
def sign : List Char → Bool × List Char
  | '-' :: rest => (true, rest)
  | '+' :: rest => (false, rest)
  | cs => (false, cs)

/-- Decimal digits without a leading zero. -/
def decimalRun : Reader (List Nat)
  | '0' :: rest => some ([0], rest)
  | cs => digitRun 10 cs

/-- An integer, if it has 64 bits. -/
def integer? (negative : Bool) (n : Nat) : Option Item :=
  if negative then if n ≤ Nat.pow 2 63 then some (.integer (-(n : Int))) else none
  else if n < Nat.pow 2 63 then some (.integer n) else none

/-- An integer to a base other than ten, without the mark of the base. -/
def basedInteger (base : Nat) : Reader Item := fun cs => do
  let (ds, rest) ← digitRun base cs
  let item ← integer? false (valueOf base ds)
  return (item, rest)

/-! ### Floating-point numbers -/

/-- Whether `m * 10 ^ e` is too large for a floating-point number of 64 bits: nearest to it would be
`2 ^ 1024`. -/
def isHuge (m : Nat) (e : Int) : Bool :=
  let size : Int := (Nat.toDigits 10 m).length + e
  if m = 0 || size ≤ 308 then false
  else if 310 ≤ size then true
  else
    let limit := Nat.pow 2 1024 - Nat.pow 2 970
    if 0 ≤ e then limit ≤ m * Nat.pow 10 e.toNat else limit * Nat.pow 10 (-e).toNat ≤ m

/-- The exponent of a number. -/
def exponent : Reader Int
  | c :: rest =>
    if c = 'e' || c = 'E' then do
      let (negative, rest) := sign rest
      let (ds, rest) ← digitRun 10 rest
      let n : Int := valueOf 10 ds
      return (if negative then -n else n, rest)
    else none
  | [] => none

/-- The digits after the point of a number. -/
def fraction : Reader (List Nat)
  | '.' :: rest => digitRun 10 rest
  | _ => none

/-- A decimal number, which is a floating-point number if it has a fraction or an exponent. -/
def decimal : Reader Item := fun cs => do
  let (negative, cs) := sign cs
  let (whole, cs) ← decimalRun cs
  let real (parts : List Nat) (e : Int) (rest : List Char) : Option (Item × List Char) :=
    if !negative && isHuge (valueOf 10 (whole ++ parts)) (e - parts.length) then none
    else some (.real, rest)
  match cs with
  | '.' :: _ => do
    let (parts, cs) ← fraction cs
    match exponent cs with
    | some (e, rest) => real parts e rest
    | none => real parts 0 cs
  | _ =>
    match exponent cs with
    | some (e, rest) => real [] e rest
    | none => do
      let item ← integer? negative (valueOf 10 whole)
      return (item, cs)

/-- A number. -/
def number : Reader Item := fun cs =>
  match cs with
  | '0' :: 'x' :: rest => basedInteger 16 rest
  | '0' :: 'o' :: rest => basedInteger 8 rest
  | '0' :: 'b' :: rest => basedInteger 2 rest
  | _ =>
    match (sign cs).2 with
    | 'i' :: 'n' :: 'f' :: rest | 'n' :: 'a' :: 'n' :: rest => some (.real, rest)
    | _ => decimal cs

/-! ### Dates and times -/

/-- Two digits within bounds. -/
def twoDigits (least most : Nat) : Reader Nat := fun cs => do
  let (n, rest) ← Text.fixedDigits 10 2 0 cs
  if least ≤ n ∧ n ≤ most then some (n, rest) else none

/-- How many days a month has. -/
def daysOf (year month : Nat) : Nat :=
  if month = 2 then
    if year % 4 = 0 ∧ (year % 100 ≠ 0 ∨ year % 400 = 0) then 29 else 28
  else if month = 4 ∨ month = 6 ∨ month = 9 ∨ month = 11 then 30
  else 31

/-- A day of the calendar. -/
def date : Reader Unit := fun cs => do
  let (year, cs) ← Text.fixedDigits 10 4 0 cs
  let (_, cs) ← Text.char '-' cs
  let (month, cs) ← twoDigits 1 12 cs
  let (_, cs) ← Text.char '-' cs
  let (_, cs) ← twoDigits 1 (daysOf year month) cs
  return ((), cs)

/-- A time of the day, possibly with a fraction of a second. -/
def time : Reader Unit := fun cs => do
  let (_, cs) ← twoDigits 0 23 cs
  let (_, cs) ← Text.char ':' cs
  let (_, cs) ← twoDigits 0 59 cs
  let (_, cs) ← Text.char ':' cs
  let (_, cs) ← twoDigits 0 60 cs
  match cs with
  | '.' :: rest =>
    match Text.digits 10 rest with
    | ([], _) => none
    | (_, rest) => return ((), rest)
  | _ => return ((), cs)

/-- The distance of a time zone, if one is given. -/
def offset : List Char → List Char := fun cs =>
  match cs with
  | c :: rest =>
    if c = 'Z' || c = 'z' then rest
    else if c = '+' || c = '-' then
      let distance : Option (List Char) := do
        let (_, rest) ← twoDigits 0 23 rest
        let (_, rest) ← Text.char ':' rest
        let (_, rest) ← twoDigits 0 59 rest
        return rest
      distance.getD cs
    else cs
  | [] => []

/-- A date, a time, or both, the latter possibly with a time zone. -/
def moment : Reader Item := fun cs =>
  match date cs with
  | some (_, cs) =>
    let full : Option (List Char) :=
      match cs with
      | c :: rest =>
        if c = 'T' || c = 't' || c = ' ' then (time rest).map fun (_, rest) => offset rest else none
      | [] => none
    some (.moment, full.getD cs)
  | none => (time cs).map fun (_, rest) => (.moment, rest)

end FlowBurst.Toml
