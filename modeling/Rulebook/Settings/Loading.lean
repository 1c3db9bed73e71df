import Rulebook.Settings.Basic
import Rulebook.Settings.Toml.Document
import Rulebook.Text.Capitals

/-! # Loading settings

Settings come from layers, of which the later ones prevail key by key: the names given to the
program, the files `default.toml`, that of the environment and that of the service, and the
variables that begin with `RULES_`. The variable for the port of the service prevails over all
of them.
-/

namespace Rulebook

abbrev Variables := List (String × String)

namespace Settings

def pointed : List Char → List Char
  | '_' :: '_' :: cs => '.' :: pointed cs
  | c :: cs => c :: pointed cs
  | [] => []

/-- The path of a variable: its name in lower case behind `RULES_`, a point for two underscores. -/
def variablePath? (name : String) : Option String :=
  let start := "rules_".toList
  let cs := (Scalar.lower name).toList
  if start.isPrefixOf cs then some (String.ofList (pointed (cs.drop start.length))) else none

def statedByVariables (vars : Variables) : List (String × SettingTree) :=
  vars.filterMap fun (name, text) =>
    (variablePath? name).map fun path => (path, .scalar (Scalar.ofVariable text))

/-- The names given to the program, as the lowest layer. -/
def names (service environment : String) : SettingTree := .table
  [("service_name", .scalar (.text service)), ("environment", .scalar (.text environment))]

def fileNames (service environment : String) : List String :=
  ["default.toml", environment ++ ".toml", service ++ ".toml"]

/-- The settings in the file of a name, or none if there is no such file. -/
def readFile (files : Files) (name : String) : Option (List (String × SettingTree)) :=
  match files.find? name with
  | some text => Toml.parse? (String.ofList (Toml.dropMark text.toList))
  | none => some []

def layers (service environment : String) (files : Files) (vars : Variables) :
    Option SettingTree := do
  let sources ← (fileNames service environment).mapM (readFile files)
  return (sources ++ [statedByVariables vars]).foldl SettingTree.overlaySource
    (names service environment)

/-- A setting that is read from a scalar, or its default. -/
def scalarOr {α : Type} (default : α) (read : Scalar → Option α) (tree : SettingTree)
    (key : String) : Option α :=
  match tree.child? key with
  | none => some default
  | some (.scalar value) => read value
  | some _ => none

/-- A section, which is empty if it is not set. A list states its settings in their order. -/
def section? (keys : List String) (tree : SettingTree) (key : String) : Option SettingTree :=
  match tree.child? key with
  | none => some .empty
  | some (.table entries) => some (.table entries)
  | some (.list items) => some (.table (keys.zip items))
  | some _ => none

def textOr (default : String) := scalarOr default (some ∘ Scalar.toText)

def boolOr (default : Bool) := scalarOr default Scalar.toBool?

def portOr (default : Nat) := scalarOr default (Scalar.toNat? Scalar.portBound)

def countOr (default : Nat) := scalarOr default (Scalar.toNat? Scalar.wordBound)

/-- The settings of a tree; entries of other names do not matter. -/
def ofTree? (tree : SettingTree) : Option Settings := do
  let d : Settings := {}
  let server ← section? ["host", "port"] tree "server"
  let logs ← section? ["log_level", "log_format", "metrics_enabled", "metrics_port"] tree
    "observability"
  let engine ← section? ["max_rule_length", "max_combine_rules", "max_depth", "trace_enabled"] tree
    "engine"
  return {
    serviceName := ← textOr d.serviceName tree "service_name"
    environment := ← textOr d.environment tree "environment"
    server := {
      host := ← textOr d.server.host server "host"
      port := ← portOr d.server.port server "port" }
    logs := {
      level := ← textOr d.logs.level logs "log_level"
      format := ← textOr d.logs.format logs "log_format"
      metricsEnabled := ← boolOr d.logs.metricsEnabled logs "metrics_enabled"
      metricsPort := ← portOr d.logs.metricsPort logs "metrics_port" }
    engine := {
      ruleLength := ← countOr d.engine.ruleLength engine "max_rule_length"
      ruleCount := ← countOr d.engine.ruleCount engine "max_combine_rules"
      depth := ← countOr d.engine.depth engine "max_depth"
      tracing := ← boolOr d.engine.tracing engine "trace_enabled" } }

/-- The variable for the port of a service: its name in capitals, with underscores for hyphens. -/
def portVariable (service : String) : String :=
  if service = "rule-api-service" then "RULE_API_PORT"
  else (Text.toCapitals service).map (fun c => if c = '-' then '_' else c) ++ "_PORT"

def port? (text : String) : Option Nat := Scalar.naturalBelow? Scalar.portBound text

/-- The port that the variable for the service states, if it states one. -/
def servicePort? (service : String) (vars : Variables) : Option Nat :=
  (vars.lookup (portVariable service)).bind port?

def loadFrom (service environment : String) (files : Files) (vars : Variables) :
    Option Settings := do
  let settings ← ofTree? (← layers service environment files vars)
  match servicePort? service vars with
  | some port => return { settings with server := { settings.server with port } }
  | none => return settings

def environmentOf (vars : Variables) : String :=
  (vars.lookup "RULES_ENV").getD "development"

/-- The settings of a service in the environment that the variables name. -/
def load (service : String) (files : Files) (vars : Variables) : Option Settings :=
  loadFrom service (environmentOf vars) files vars

end Settings

end Rulebook
