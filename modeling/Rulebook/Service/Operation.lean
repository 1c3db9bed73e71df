import Rulebook.Rule.Ingest
import Rulebook.Service.Answer
import Rulebook.Service.Request
import Rulebook.Settings.Basic
import Rulebook.Telemetry.Activity
import Rulebook.Telemetry.Metrics

/-! # Operations

The three operations of the service. An operation either succeeds with the data and the message
of its answer or fails with a fault; besides, it tells what it did and what it counted.
-/

namespace Rulebook

/-- A service compiles within limits and traces evaluations unless a request says otherwise. -/
structure Service where
  compiler : Compiler
  tracing : Bool

namespace Service

instance : Inhabited Service := ⟨⟨{}, false⟩⟩

def ofSettings (s : EngineSettings) : Service where
  compiler :=
    ((Compiler.withRuleLength {} s.ruleLength).withRuleCount s.ruleCount).withDepth s.depth
  tracing := s.tracing

/-- A success: the message and the data of the answer. -/
structure Success where
  message : String
  data : Json

structure Effect where
  result : Except ServiceFault Success
  activities : List Activity := []
  samples : List Sample := []

namespace Log

def compilerTarget : String := "rule_engine::compiler"

def executorTarget : String := "rule_engine::executor"

def handlerTarget : String := "rule_api_service::handlers::rule"

def faultTarget : String := "rule_api_service::error"

def tokenized (rule : String) : Activity := .event
  { level := .debug, target := compilerTarget, message := "rule tokenized",
    fields := [("tokens", .integer (Token.tokenize rule).length)] }

def refused (message : String) (cause : Fault) : Activity := .event
  { level := .warn, target := handlerTarget, message,
    fields := [("code", .quoted cause.code), ("error", .plain cause.message)] }

def done (message : String) (fields : Fields) : Activity := .event
  { level := .info, target := handlerTarget, message, fields }

/-- What the compiler does with one rule: it is split into tokens unless it is too long. -/
def parsing (c : Compiler) (rule : String) : List Activity :=
  match c.checkLength rule with
  | .ok _ => [tokenized rule]
  | .error _ => []

def compiling (c : Compiler) (rule : String) : Activity := .span
  { level := .debug, target := compilerTarget, name := "compile",
    fields := [("rule", .quoted rule)] }
  (parsing c rule)

/-- What the compiler does with the rules that follow a combination, up to the first fault. -/
def extending (c : Compiler) (op : Connective) : Expression → List String → List Activity
  | tree, [] => [.event
      { level := .debug, target := compilerTarget, message := "rules combined",
        fields := [("nodes", .integer tree.nodeCount)] }]
  | tree, rule :: rules => parsing c rule ++
      match c.extend op tree rule with
      | .ok tree => extending c op tree rules
      | .error _ => []

def joining (c : Compiler) (op : Connective) (rules : List String) : List Activity :=
  match c.checkCount rules, rules with
  | .ok _, rule :: rules => parsing c rule ++
      match c.parse rule with
      | .ok tree => extending c op tree rules
      | .error _ => []
  | _, _ => []

def combining (c : Compiler) (op : Connective) (rules : List String) : Activity := .span
  { level := .debug, target := compilerTarget, name := "combine",
    fields := [("operator", .plain op.name), ("count", .integer rules.length)] }
  (joining c op rules)

def executing (e : Expression) : Activity := .span
  { level := .debug, target := executorTarget, name := "execute",
    fields := [("nodes", .integer e.nodeCount)] } []

def failed (fault : ServiceFault) : Activity := .event
  { level := .error, target := faultTarget, message := "Request failed",
    fields := [("code", .quoted fault.code), ("error", .plain fault.message)] }

end Log

/-- A request that breaks constraints goes no further. -/
def invalid (violations : List String) : Effect :=
  { result := .error (.validation (violationText violations)) }

def compile (s : Service) (r : CompileRequest) : Effect :=
  if !r.violations.isEmpty then invalid r.violations
  else match s.compiler.compile r.rule with
    | .ok rule =>
      { result := .ok ⟨"规则编译成功", rule.toJson⟩
        activities := [Log.compiling s.compiler r.rule,
          Log.done "Rule compiled" [("nodes", .integer rule.root.nodeCount),
            ("fields", .integer rule.fields.length)]]
        samples := Sample.ofCompilation "compile" "success" }
    | .error cause =>
      { result := .error (.compilation cause)
        activities := [Log.compiling s.compiler r.rule, Log.refused "Rule compilation failed" cause]
        samples := Sample.ofCompilation "compile" "error" }

def combine (s : Service) (r : CombineRequest) : Effect :=
  if !r.violations.isEmpty then invalid r.violations
  else match s.compiler.combine r.connective r.rules with
    | .ok rule =>
      { result := .ok ⟨"规则组合成功", rule.toJson⟩
        activities := [Log.combining s.compiler r.connective r.rules,
          Log.done "Rules combined" [("count", .integer r.rules.length),
            ("operator", .plain r.connective.symbol)]]
        samples := Sample.ofCompilation "combine" "success" }
    | .error cause =>
      { result := .error (.compilation cause)
        activities := [Log.combining s.compiler r.connective r.rules,
          Log.refused "Rule combination failed" cause]
        samples := Sample.ofCompilation "combine" "error" }

/-- Evaluates an expression that has been accepted. The time is that of the evaluation. -/
def run (micros : Nat) (tracing : Bool) (record : Record) (e : Expression) : Effect :=
  match e.execute tracing record with
  | .ok outcome =>
    { result := .ok ⟨"规则评估完成", outcome.toJson tracing micros⟩
      activities := [Log.executing e,
        Log.done "Rule evaluated" [("result", .plain outcome.value.display),
          ("evaluation_time_us", .integer micros)]]
      samples := Sample.ofEvaluation "success" }
  | .error cause =>
    { result := .error (.evaluation cause)
      activities := [Log.executing e, Log.refused "Rule evaluation failed" cause,
        Log.failed (.evaluation cause)]
      samples := Sample.ofEvaluation "error" }

def evaluate (s : Service) (micros : Nat) (r : EvaluateRequest) : Effect :=
  if !r.violations.isEmpty then invalid r.violations
  else match Expression.ofJson r.ast with
    | .error cause =>
      { result := .error (.invalidAst cause)
        activities := [Log.refused "Rejected invalid AST" cause] }
    | .ok e => match Record.ofJson r.userData with
      | .error cause => { result := .error (.validation cause.message) }
      | .ok record => run micros (r.trace.getD s.tracing) record e

end Service

end Rulebook
