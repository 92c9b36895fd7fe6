import FlowBurst.Text.Hex
import FlowBurst.Text.Reader

/-!
# Socket addresses

An internet address of either family with a port, its canonical text, and the texts that are read as
one. An octet of an address of the fourth family has no leading zero. An address of the sixth family
may leave out one run of zero groups, may end in an address of the fourth family and may name a
scope; its canonical text leaves out the first of the longest runs of at least two zero groups.
-/

namespace FlowBurst.Transport

open FlowBurst.Text (Reader char digits)

/-- An internet address with a port. -/
inductive Address
  | v4 (octets : Vector UInt8 4) (port : UInt16)
  | v6 (groups : Vector UInt16 8) (scope : UInt32) (port : UInt16)
  deriving DecidableEq, Repr

namespace Address

/-- The address of every interface of the machine. -/
def unspecified (port : UInt16) : Address := .v4 #v[0, 0, 0, 0] port

/-- The address by which the machine reaches itself. -/
def loopback (port : UInt16) : Address := .v4 #v[127, 0, 0, 1] port

/-! ### Reading -/

/-- All digits at the front of a text as a number below a bound: at least one digit, at most
`longest` of them if that is given, and no leading zero unless `leadingZero` allows it. -/
def number (base : Nat) (longest : Option Nat) (leadingZero : Bool) (bound : Nat) : Reader Nat :=
  fun cs =>
    let (ds, rest) := digits base cs
    let tooLong := match longest with
      | some n => n < ds.length
      | none => false
    let zeroFirst := ds.head? == some 0 && 1 < ds.length
    let n := Numeral.value base ds
    if ds.isEmpty || tooLong || (zeroFirst && !leadingZero) || bound ≤ n then none
    else some (n, rest)

/-- A value, with a separator in front of it unless it is the first. -/
def separated {α : Type} (first : Bool) (separator : Char) (read : Reader α) : Reader α := fun cs =>
  if first then read cs else (char separator cs).bind fun (_, rest) => read rest

/-- Four octets between dots. -/
def octets : Reader (Nat × Nat × Nat × Nat) := fun cs => do
  let octet := number 10 (some 3) false 256
  let (a, cs) ← octet cs
  let (b, cs) ← separated false '.' octet cs
  let (c, cs) ← separated false '.' octet cs
  let (d, cs) ← separated false '.' octet cs
  return ((a, b, c, d), cs)

/-- At most `limit` groups between colons, whether the last two of them were written as an address
of the fourth family, and the rest. -/
def groups : (limit : Nat) → (first : Bool) → List Char → List Nat × Bool × List Char
  | 0, _, cs => ([], false, cs)
  | limit + 1, first, cs =>
    let embedded := if limit = 0 then none else separated first ':' octets cs
    match embedded with
    | some ((a, b, c, d), rest) => ([a * 256 + b, c * 256 + d], true, rest)
    | none =>
      match separated first ':' (number 16 (some 4) true 65536) cs with
      | none => ([], false, cs)
      | some (g, rest) =>
        let (gs, embedded, rest) := groups limit false rest
        (g :: gs, embedded, rest)

/-- The eight groups of an address of the sixth family, one run of zero groups possibly left out. -/
def eightGroups : Reader (Vector UInt16 8) := fun cs =>
  let build (gs : List Nat) : Vector UInt16 8 := .ofFn fun i => (gs.getD i.val 0).toUInt16
  let (front, embedded, rest) := groups 8 true cs
  if front.length = 8 then some (build front, rest)
  else if embedded then none
  else do
    let (_, rest) ← char ':' rest
    let (_, rest) ← char ':' rest
    let (back, _, rest) := groups (7 - front.length) true rest
    return (build (front ++ List.replicate (8 - front.length - back.length) 0 ++ back), rest)

/-- A colon and a port. -/
def port : Reader UInt16 := fun cs => do
  let (_, cs) ← char ':' cs
  let (n, cs) ← number 10 none true 65536 cs
  return (n.toUInt16, cs)

/-- An address of the fourth family and a port. -/
def readV4 : Reader Address := fun cs => do
  let ((a, b, c, d), cs) ← octets cs
  let (p, cs) ← port cs
  return (v4 #v[a.toUInt8, b.toUInt8, c.toUInt8, d.toUInt8] p, cs)

/-- An address of the sixth family between brackets, possibly with a scope, and a port. -/
def readV6 : Reader Address := fun cs => do
  let (_, cs) ← char '[' cs
  let (gs, cs) ← eightGroups cs
  let scope : Option (Nat × List Char) := do
    let (_, cs) ← char '%' cs
    number 10 none true 4294967296 cs
  let (s, cs) := scope.getD (0, cs)
  let (_, cs) ← char ']' cs
  let (p, cs) ← port cs
  return (v6 gs s.toUInt32 p, cs)

/-- The address that a whole text denotes. -/
def ofChars? (cs : List Char) : Option Address :=
  match readV4 cs with
  | some (a, []) => some a
  | some _ => none
  | none =>
    match readV6 cs with
    | some (a, []) => some a
    | _ => none

/-- The address that a text denotes. -/
def ofString? (s : String) : Option Address := ofChars? s.toList

/-! ### Writing -/

/-- Four octets between dots. -/
def dotted (a b c d : Nat) : String :=
  toString a ++ "." ++ toString b ++ "." ++ toString c ++ "." ++ toString d

/-- The lowercase hexadecimal digits of a group, without leading zeros. -/
def groupText (g : UInt16) : String :=
  match (Numeral.digits 16 4 g.toNat).dropWhile (· = 0) with
  | [] => "0"
  | ds => String.ofList (ds.map Text.hexDigit)

/-- Groups between colons. -/
def colons (gs : List UInt16) : String := ":".intercalate (gs.map groupText)

/-- The length of the run of zero groups at the front of a list. -/
def zeroRun (gs : List UInt16) : Nat := (gs.takeWhile (· = 0)).length

/-- The start and the length of the first of the longest runs of zero groups. -/
def longestZeroRun (gs : List UInt16) : Nat × Nat :=
  (List.range gs.length).foldl
    (fun best i =>
      let n := zeroRun (gs.drop i)
      if best.2 < n then (i, n) else best)
    (0, 0)

/-- The text of the groups of an address of the sixth family. -/
def groupsText (gs : List UInt16) : String :=
  match gs with
  | [0, 0, 0, 0, 0, 0xffff, x, y] =>
    "::ffff:" ++ dotted (x.toNat / 256) (x.toNat % 256) (y.toNat / 256) (y.toNat % 256)
  | _ =>
    let (start, length) := longestZeroRun gs
    if 1 < length then colons (gs.take start) ++ "::" ++ colons (gs.drop (start + length))
    else colons gs

/-- The canonical text of an address. -/
def text : Address → String
  | v4 o p =>
    dotted o[0].toNat o[1].toNat o[2].toNat o[3].toNat ++ ":" ++ toString p.toNat
  | v6 g s p =>
    let scope := if s = 0 then "" else "%" ++ toString s.toNat
    "[" ++ groupsText g.toList ++ scope ++ "]:" ++ toString p.toNat

/-- Whether an address belongs to the host itself, or stands for all its addresses. -/
def isLocal : Address → Bool
  | v4 o _ => o[0] = 127 || o.toList.all (· = 0)
  | v6 g _ _ => (g.toList.take 7).all (· = 0) && g[7].toNat ≤ 1

end Address

end FlowBurst.Transport
