import Rulebook.Settings.Loading
import Rulebook.Telemetry.Activity
import Rulebook.Telemetry.Filter
import Rulebook.Telemetry.Metrics

/-! # Observability

How a service lets itself be observed: a log under a filter, and metrics on a port of their
own. Opening it can fail after the log has been set up, for a process has one log only and the
port may be in use.
-/

namespace Rulebook

structure Observability where
  serviceName : String := "unknown-service"
  metricsEnabled : Bool := true
  metricsPort : Nat := 9090
  logLevel : String := "info"
  jsonLogs : Bool := false
deriving DecidableEq

namespace Observability

/-- What the settings say; the format `json` is recognised in any case. -/
def ofSettings (s : Settings) : Observability where
  serviceName := s.serviceName
  metricsEnabled := s.logs.metricsEnabled
  metricsPort := s.logs.metricsPort
  logLevel := s.logs.level
  jsonLogs := s.logs.format.map Char.toLower = "json"

/-- Whether a variable is `true` or `1`, or the default if it is not set. -/
def flag (vars : Variables) (name : String) (default : Bool) : Bool :=
  ((vars.lookup name).map fun text => text = "true" || text = "1").getD default

def ofVariables (service : String) (vars : Variables) : Observability where
  serviceName := service
  metricsEnabled := flag vars "METRICS_ENABLED" true
  metricsPort := ((vars.lookup "METRICS_PORT").bind Settings.port?).getD 9090
  logLevel := (vars.lookup "RUST_LOG").getD "info"
  jsonLogs := flag vars "JSON_LOGS" false

/-- Events are admitted down to `info` where nothing else is said. -/
def defaultFilter : Filter := ⟨[{ threshold := Level.info.verbosity }]⟩

/-- The filter that a text states if it is one, or else the one that the settings state. -/
def filter (o : Observability) (text : Option String) : Filter :=
  ((text.bind Filter.parse?).orElse fun _ => Filter.parse? o.logLevel).getD defaultFilter

def target : String := "rule_shared::observability"

def opened (o : Observability) : Event where
  level := .info
  target := target
  message := "Observability initialized"
  fields := [("service", .plain o.serviceName), ("metrics_enabled", .flag o.metricsEnabled),
    ("metrics_port", .plain (toString o.metricsPort))]

def listening (o : Observability) : Event where
  level := .info
  target := "rule_shared::observability::metrics"
  message := "Metrics server listening on 0.0.0.0:" ++ toString o.metricsPort

def closed : Event where
  level := .info
  target := target
  message := "Shutting down observability..."

/-- What opening comes to: whether it succeeded, what was logged and what was counted. -/
structure Opening where
  succeeded : Bool
  events : List Event
  samples : List Sample
deriving DecidableEq

/-- Opens the log and then, if they are enabled, the metrics. -/
def start (o : Observability) (hasLog portBusy : Bool) : Opening :=
  if hasLog then ⟨false, [], []⟩
  else if !o.metricsEnabled then ⟨true, [o.opened], []⟩
  else
    let samples := Sample.ofStart o.serviceName
    if portBusy then ⟨false, [o.opened], samples⟩
    else ⟨true, [o.opened, o.listening], samples⟩

/-- What the port for metrics answers to a path: the metrics, or that it is in good health. -/
def answer (samples : List Sample) (path : String) : Nat × List String :=
  if path = "/metrics" then (200, Metrics.exposition samples)
  else if path = "/health" then (200, ["OK"])
  else (404, [])

end Observability

end Rulebook
