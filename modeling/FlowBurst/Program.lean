import FlowBurst.Plan

/-!
# The outcome of the program

How a run of the program ends: its arguments are refused or ask for help, it cannot start, or it has
run. The exit status says whether it ran and no failed burst stopped it. A program that cannot start
says what it was about to do and gives the whole chain of causes.
-/

namespace FlowBurst

/-- Why the program cannot start. -/
inductive StartFailure
  | loading (error : ConfigurationError)
  | binding (failure : Switch.Failure)
  deriving DecidableEq, Repr

/-- A failure and what is behind it, the outermost first. -/
def Switch.Failure.chain (f : Failure) : List String := f.message :: f.source?.toList

/-- An error of a configuration and what is behind it. The text of a malformed document is left
open. -/
def ConfigurationError.chain? : ConfigurationError → Option (List String)
  | unreadable path fault => (message? (unreadable path fault)).map fun m => [m, fault.message]
  | malformed => none
  | invalid f => (message? (invalid f)).map fun m => m :: f.chain

/-- What the program says about a start that failed. -/
def StartFailure.message? : StartFailure → Option String
  | loading e => e.chain?.map fun causes => ": ".intercalate ("loading configuration" :: causes)
  | binding f => some (": ".intercalate ("binding listener" :: f.chain))

/-- How a run of the program ended. -/
inductive Outcome
  | usage (error : UsageError)
  | notStarted (failure : StartFailure)
  | ran (stoppedOnFailure : Bool)
  deriving DecidableEq, Repr

namespace Outcome

/-- The exit status of the program. -/
def exitCode : Outcome → Nat
  | usage e => e.exitCode
  | notStarted _ => 1
  | ran stoppedOnFailure => if stoppedOnFailure then 1 else 0

/-- The lines in which the program complains; none if the text is left open. -/
def complaints? : Outcome → Option (List String)
  | notStarted failure => failure.message?.map fun m => ["spark-burst: " ++ m]
  | usage _ | ran _ => some []

/-- The lines that the program writes when it ends. -/
def lines : Outcome → List String
  | usage e => e.lines
  | outcome => outcome.complaints?.getD ["spark-burst: loading configuration: malformed file"]

/-- Whether these lines are what was asked for. -/
def isAnswer : Outcome → Bool
  | usage e => e.exitCode == 0
  | _ => false

end Outcome

end FlowBurst
