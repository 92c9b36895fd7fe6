import FlowBurst.Burst.Request
import FlowBurst.Text.Reader
import FlowBurst.Transport.Address

/-!
# The command line

The parameters of the program, and how they are read off its arguments: long names with the value
behind an equals sign or in the next argument, short names that may be written together, and one
argument without a name. After `--` every argument is one without a name.

A value is looked at when the next parameter begins or the arguments end, so that of two faults the
one that comes first is reported, except that an unknown argument is reported before a fault of the
value in front of it.
-/

namespace FlowBurst

open FlowBurst.Transport (Address)

/-- What the arguments can give. -/
inductive Parameter
  | count
  | kind
  | listen
  | config
  | sendTimeout
  | exitOnFailure
  | maxBursts
  | verbose
  | help
  | version
  deriving DecidableEq, Repr

namespace Parameter

/-- Every parameter that has a name. -/
def named : List Parameter :=
  [kind, listen, config, sendTimeout, exitOnFailure, maxBursts, verbose, help, version]

/-- The long name of a parameter. -/
def long : Parameter → String
  | count => ""
  | kind => "kind"
  | listen => "listen"
  | config => "config"
  | sendTimeout => "send-timeout-ms"
  | exitOnFailure => "exit-on-failure"
  | maxBursts => "max-bursts"
  | verbose => "verbose"
  | help => "help"
  | version => "version"

/-- The short name of a parameter. -/
def short? : Parameter → Option Char
  | kind => some 'k'
  | listen => some 'l'
  | config => some 'c'
  | verbose => some 'v'
  | help => some 'h'
  | version => some 'V'
  | _ => none

/-- The name of the value of a parameter that takes one. -/
def value? : Parameter → Option String
  | count => some "COUNT"
  | kind => some "KIND"
  | listen => some "ADDR"
  | config => some "FILE"
  | sendTimeout => some "MS"
  | maxBursts => some "N"
  | _ => none

/-- How a parameter is referred to. -/
def text (p : Parameter) : String :=
  match p, p.value? with
  | count, _ => "<COUNT>"
  | verbose, _ => "--" ++ p.long ++ "..."
  | _, some value => "--" ++ p.long ++ " <" ++ value ++ ">"
  | _, none => "--" ++ p.long

/-- The parameter of a long name. -/
def ofLong? (name : String) : Option Parameter := named.find? fun p => p.long == name

/-- The parameter of a short name. -/
def ofShort? (name : Char) : Option Parameter := named.find? fun p => p.short? == some name

end Parameter

/-! ### Values -/

/-- Why a text is no number of 64 bits. -/
inductive NumberFault
  | empty
  | notDigit
  | tooLarge
  deriving DecidableEq, Repr

/-- The text of a fault of a number. -/
def NumberFault.message : NumberFault → String
  | empty => "cannot parse integer from empty string"
  | notDigit => "invalid digit found in string"
  | tooLarge => "number too large to fit in target type"

/-- The number of 64 bits that further digits make of `n`. The first character at fault decides. -/
def continueNumber (n : Nat) : List Char → Except NumberFault Nat
  | [] => .ok n
  | c :: cs =>
    match Text.digit? 10 c with
    | none => .error .notDigit
    | some d => if n * 10 + d < Nat.pow 2 64 then continueNumber (n * 10 + d) cs else .error .tooLarge

/-- The number of 64 bits that a text denotes, possibly with a plus sign. -/
def readNumber (s : String) : Except NumberFault Nat :=
  match s.toList with
  | [] => .error .empty
  | '+' :: c :: cs => continueNumber 0 (c :: cs)
  | cs => continueNumber 0 cs

/-- Why a value is refused. -/
inductive ValueFault
  | request (error : Burst.RequestError)
  | address
  | number (fault : NumberFault)
  deriving DecidableEq, Repr

/-- The text of a refused value. -/
def ValueFault.message : ValueFault → String
  | request e => e.message
  | address => "invalid socket address syntax"
  | number fault => fault.message

/-- Why the arguments do not lead to a run: they are refused, or ask for something else. -/
inductive UsageError
  | missing (p : Parameter)
  | unknown (argument : String)
  | repeated (p : Parameter)
  | noValue (p : Parameter)
  | unneededValue (p : Parameter)
  | refused (p : Parameter) (fault : ValueFault)
  | help
  | version
  deriving DecidableEq, Repr

namespace UsageError

/-- The exit status of the program after a usage error. -/
def exitCode : UsageError → Nat
  | help | version => 0
  | _ => 2

/-- The parameters of the program and what they mean. -/
def manual : List String :=
  ["Send a burst of identical OpenFlow control messages to every switch that connects",
   "",
   "Usage: spark-burst [OPTIONS] <COUNT>",
   "",
   "  <COUNT>                 Number of messages to send to each switch once it is ready",
   "  -k, --kind <KIND>       Message kind to repeat [default: set-config]",
   "  -l, --listen <ADDR>     Address to listen on [default: 0.0.0.0:6653]",
   "  -c, --config <FILE>     TOML file with [controller] and [burst] tables",
   "  --send-timeout-ms <MS>  Limit of time of each send in milliseconds",
   "  --exit-on-failure       Stop and exit with status 1 as soon as one burst aborts",
   "  --max-bursts <N>        Stop after this many bursts have finished",
   "  -v, --verbose           More output",
   "  -h, --help              Print help",
   "  -V, --version           Print version"]

/-- What the program says instead of running. -/
def lines : UsageError → List String
  | missing p => ["error: missing argument " ++ p.text]
  | unknown argument => ["error: unexpected argument " ++ argument]
  | repeated p => ["error: " ++ p.text ++ " given more than once"]
  | noValue p => ["error: " ++ p.text ++ " needs a value"]
  | unneededValue p => ["error: " ++ p.text ++ " takes no value"]
  | refused p fault => ["error: invalid value for " ++ p.text ++ ": " ++ fault.message]
  | help => manual
  | version => ["spark-burst 0.1.0"]

end UsageError

/-! ### Reading the arguments -/

/-- What the arguments gave so far. -/
structure Given where
  count : Option Burst.Request := none
  kind : Option Burst.Kind := none
  listen : Option Address := none
  config : Option String := none
  sendTimeout : Option Nat := none
  exitOnFailure : Bool := false
  maxBursts : Option UInt64 := none
  /-- How often more output was asked for, at most 255 times. -/
  verbose : Nat := 0
  deriving DecidableEq, Repr

namespace Given

/-- Whether a parameter was given that may be given once only. -/
def has (g : Given) : Parameter → Bool
  | .count => g.count.isSome
  | .kind => g.kind.isSome
  | .listen => g.listen.isSome
  | .config => g.config.isSome
  | .sendTimeout => g.sendTimeout.isSome
  | .exitOnFailure => g.exitOnFailure
  | .maxBursts => g.maxBursts.isSome
  | .verbose | .help | .version => false

/-- Takes the value of a parameter. -/
def withValue (g : Given) (p : Parameter) (s : String) : Except UsageError Given :=
  let number (f : Nat → Given) : Except UsageError Given :=
    match readNumber s with
    | .ok n => .ok (f n)
    | .error fault => .error (.refused p (.number fault))
  match p with
  | .count =>
    match Burst.Request.parse s with
    | .ok request => .ok { g with count := some request }
    | .error e => .error (.refused p (.request e))
  | .kind =>
    match Burst.Kind.parse s with
    | .ok kind => .ok { g with kind := some kind }
    | .error e => .error (.refused p (.request e))
  | .listen =>
    match Address.ofString? s with
    | some a => .ok { g with listen := some a }
    | none => .error (.refused p .address)
  | .config => if s = "" then .error (.noValue p) else .ok { g with config := some s }
  | .sendTimeout => number fun n => { g with sendTimeout := some n }
  | .maxBursts => number fun n => { g with maxBursts := some n.toUInt64 }
  | .exitOnFailure | .verbose | .help | .version => .error (.unneededValue p)

/-- Takes a parameter that has no value. -/
def withFlag (g : Given) : Parameter → Except UsageError Given
  | .exitOnFailure => .ok { g with exitOnFailure := true }
  | .verbose => .ok { g with verbose := min (g.verbose + 1) 255 }
  | .help => .error .help
  | .version => .error .version
  | p => .error (.noValue p)

/-- Takes a parameter with or without a value. -/
def take (g : Given) (p : Parameter) (value : Option String) : Except UsageError Given :=
  if p.value?.isSome && value.isNone then .error (.noValue p)
  else if g.has p then .error (.repeated p)
  else
    match value with
    | some s => g.withValue p s
    | none => g.withFlag p

end Given

/-- Arguments that are being read: what they gave so far, the parameter whose value has not been
looked at, and whether `--` has passed. -/
structure Reading where
  given : Given := {}
  pending : Option (Parameter × Option String) := none
  counted : Bool := false
  namesEnded : Bool := false
  deriving DecidableEq, Repr

namespace Reading

/-- Looks at the value that is pending. -/
def resolve (r : Reading) : Except UsageError Reading :=
  match r.pending with
  | none => .ok r
  | some (p, value) => (r.given.take p value).map fun given => { r with given, pending := none }

/-- Takes a parameter by name. One that takes a value but has none attached waits for it. -/
def name (r : Reading) (p : Parameter) (attached : Option String) : Except UsageError Reading := do
  let r ← r.resolve
  if p.value?.isSome && attached.isNone then return { r with pending := some (p, none) }
  else
    let given ← r.given.take p attached
    return { r with given }

/-- Takes an argument with a long name. -/
def long (r : Reading) (cs : List Char) : Except UsageError Reading :=
  let name := String.ofList (cs.takeWhile (· ≠ '='))
  let attached := match cs.dropWhile (· ≠ '=') with
    | [] => none
    | _ :: value => some (String.ofList value)
  match Parameter.ofLong? name with
  | none => .error (.unknown ("--" ++ name))
  | some p =>
    if p.value?.isNone && attached.isSome then .error (.unneededValue p) else r.name p attached

/-- Takes an argument with short names. -/
def shorts : List Char → Reading → Except UsageError Reading
  | [], r => .ok r
  | c :: cs, r =>
    match Parameter.ofShort? c with
    | none => .error (.unknown (String.ofList ['-', c]))
    | some p =>
      if p.value?.isSome then
        match cs with
        | [] => r.name p none
        | '=' :: value => r.name p (some (String.ofList value))
        | value => r.name p (some (String.ofList value))
      else do
        let r ← r.name p none
        shorts cs r

/-- Takes an argument without a name. -/
def unnamed (r : Reading) (s : String) : Except UsageError Reading :=
  if r.counted then .error (.unknown s)
  else do
    let r ← r.resolve
    return { r with pending := some (.count, some s), counted := true }

/-- Takes an argument that is no name, nor `--`: a value that is waited for, or one without a name.
-/
def plain (r : Reading) (s : String) : Except UsageError Reading :=
  match r.pending with
  | some (p, none) => .ok { r with pending := some (p, some s) }
  | _ => r.unnamed s

/-- Takes an argument. -/
def argument (r : Reading) (s : String) : Except UsageError Reading :=
  if r.namesEnded then r.unnamed s
  else
    match s.toList with
    | ['-', '-'] => .ok { r with namesEnded := true }
    | '-' :: '-' :: cs => r.long cs
    | '-' :: c :: cs => shorts (c :: cs) r
    | _ => r.plain s

end Reading

/-! ### Command lines -/

/-- A command line that leads to a run. -/
structure CommandLine where
  /-- The number of messages, of the default kind. -/
  count : Burst.Request
  kind : Option Burst.Kind
  listen : Option Address
  config : Option String
  sendTimeout : Option Nat
  exitOnFailure : Bool
  maxBursts : Option UInt64
  verbose : Nat
  deriving DecidableEq, Repr

namespace CommandLine

/-- Reads the arguments of the program, without its name. -/
def parse (args : List String) : Except UsageError CommandLine := do
  let r ← args.foldlM Reading.argument {}
  let r ← r.resolve
  match r.given.count with
  | none => throw (.missing .count)
  | some count =>
    return { count, kind := r.given.kind, listen := r.given.listen, config := r.given.config
             sendTimeout := r.given.sendTimeout, exitOnFailure := r.given.exitOnFailure
             maxBursts := r.given.maxBursts, verbose := r.given.verbose }

/-- The level of logging that a command line asks for. -/
def logFilter (c : CommandLine) : String :=
  match c.verbose with
  | 0 => "info"
  | 1 => "debug"
  | _ => "trace"

end CommandLine

end FlowBurst
