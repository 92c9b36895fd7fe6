import FlowBurst.Burst.Kind
import FlowBurst.Text.Decimal

/-!
# Burst requests

How many messages of which kind a burst sends. A count is read from text as a number of 64 bits,
with white space around it and leading zeros allowed; a plus sign is allowed, and a minus sign only
in front of zero. The text of a refused count is reported as it was given.
-/

namespace FlowBurst.Burst

/-- Why a count is refused. -/
inductive CountFault
  | empty
  | negative
  | notDecimal
  deriving DecidableEq, Repr

/-- The text of a fault of a count. -/
def CountFault.reason : CountFault → String
  | empty => "count is empty"
  | negative => "count must not be negative"
  | notDecimal => "count must be a non-negative decimal integer"

/-- Why a request cannot be formed. -/
inductive RequestError
  | invalidCount (input : String) (fault : CountFault)
  | unknownKind (name : String)
  deriving DecidableEq, Repr

/-- The text of a request that cannot be formed. -/
def RequestError.message : RequestError → String
  | invalidCount input fault => "invalid burst count `" ++ input ++ "`: " ++ fault.reason
  | unknownKind name =>
    "unknown message kind `" ++ name ++ "` (expected one of: "
      ++ ", ".intercalate (Kind.all.map Kind.name) ++ ")"

/-- The kind that a text names, or the trimmed text as an unknown name. -/
def Kind.parse (s : String) : Except RequestError Kind :=
  match ofText? s with
  | some k => .ok k
  | none => .error (.unknownKind (String.ofList (Text.trim s.toList)))

/-- What each burst sends. -/
structure Request where
  kind : Kind := .setConfig
  count : UInt64
  deriving DecidableEq, Repr, Inhabited

namespace Request

/-- The request for a count of the default kind. -/
def ofInt (count : Int) : Except RequestError Request :=
  if count < 0 then .error (.invalidCount (toString count) .negative)
  else .ok { count := count.toNat.toUInt64 }

/-- The count that a trimmed text denotes. -/
def countOf (cs : List Char) : Except CountFault UInt64 :=
  if cs = [] then .error .empty
  else
    match Text.unsigned? 64 cs with
    | some n => .ok n.toUInt64
    | none =>
      match Text.signed? 64 cs with
      | some n => if n = 0 then .ok 0 else .error .negative
      | none => .error .notDecimal

/-- The request for the count that a text denotes, of the default kind. -/
def parse (s : String) : Except RequestError Request :=
  match countOf (Text.trim s.toList) with
  | .ok count => .ok { count }
  | .error fault => .error (.invalidCount s fault)

end Request

end FlowBurst.Burst
