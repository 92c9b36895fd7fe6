import FlowBurst.CommandLine
import FlowBurst.Configuration
import FlowBurst.Harness

/-!
# What a run does

The command line and the configuration file together say what a run does. The command line comes
first, then the file, then the defaults; a switch that either of them turns on is on. The settings
of the controller are checked once more after they have been put together.
-/

namespace FlowBurst

/-- What a run does. -/
structure Plan where
  controller : Controller.Settings
  request : Burst.Request
  exitOnFailure : Bool
  maxBursts : Option UInt64
  deriving DecidableEq, Repr

/-- The harness of a run, which can stop the controller and reports to nobody. -/
def Plan.harness (p : Plan) : Harness :=
  { request := p.request, exitOnFailure := p.exitOnFailure, maxBursts := p.maxBursts
    canStop := true }

/-- The configuration that says what a plan does. -/
def Plan.configuration (p : Plan) : Configuration :=
  { controller := p.controller
    burst :=
      { kind := some p.request.kind, exitOnFailure := p.exitOnFailure, maxBursts := p.maxBursts } }

/-- The log record of a program that has begun to listen at an address. -/
def Plan.readyRecord (p : Plan) (listen : Transport.Address) : LogRecord :=
  { level := .info, message := "spark-burst ready"
    fields := [("listen", listen.text), ("count", toString p.request.count.toNat),
      ("kind", p.request.kind.name)] }

namespace CommandLine

/-- The plan of a command line and a configuration. -/
def planWith (c : CommandLine) (file : Configuration) : Except ConfigurationError Plan :=
  let controller : Controller.Settings :=
    { file.controller with
      listen := c.listen.getD file.controller.listen
      sendTimeout := c.sendTimeout.or file.controller.sendTimeout }
  match controller.check with
  | .error f => .error (.invalid f)
  | .ok controller =>
    .ok { controller, request := { c.count with kind := (c.kind.or file.burst.kind).getD default }
          exitOnFailure := c.exitOnFailure || file.burst.exitOnFailure
          maxBursts := c.maxBursts.or file.burst.maxBursts }

/-- The configuration that a command line names, or the default one. -/
def configuration (c : CommandLine) (files : String → FileContent) :
    Except ConfigurationError Configuration :=
  match c.config with
  | some path => Configuration.ofFile path (files path)
  | none => .ok {}

/-- The plan of a command line. -/
def plan (c : CommandLine) (files : String → FileContent) : Except ConfigurationError Plan :=
  match c.configuration files with
  | .ok file => c.planWith file
  | .error e => .error e

end CommandLine

end FlowBurst
