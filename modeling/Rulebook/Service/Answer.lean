import Rulebook.Rule.Compiler
import Rulebook.Rule.Evaluation
import Rulebook.Json.Value
import Rulebook.Rule.Fault

/-! # Answers

What the service answers: an envelope around the result when it succeeds, and otherwise the fault.
A request fails at one of four stages, which decides the status and the code of the answer.
-/

namespace Rulebook

def Rule.toJson (rule : Rule) : Json := .object
  [("ast", rule.root.toJson), ("rule", .text rule.source),
    ("referencedFields", .array (rule.fields.map .text))]

namespace Outcome

def traceJson (outcome : Outcome) : Json := .array (outcome.trace.map .text)

/-- The outcome of an evaluation that took some microseconds, with its trace if asked for. -/
def toJson (outcome : Outcome) (showTrace : Bool) (micros : Nat) : Json := .object <|
  ("result", outcome.value.toJson) ::
    (if showTrace then [("trace", outcome.traceJson)] else []) ++
      [("evaluationTimeUs", .integer micros)]

def report (outcome : Outcome) (micros : Nat) : Json := .object
  [("value", outcome.value.toJson), ("evaluation_trace", outcome.traceJson),
    ("evaluation_time_us", .integer micros)]

end Outcome

namespace Service

/-- The message of a success that has none of its own. -/
def defaultMessage : String := "操作成功"

def envelope (message : String) (data : Json) : Json := .object
  [("success", .bool true), ("code", .text "SUCCESS"), ("message", .text message), ("data", data)]

end Service

inductive ServiceFault
  | validation (text : String)
  | compilation (cause : Fault)
  | invalidAst (cause : Fault)
  | evaluation (cause : Fault)
deriving DecidableEq

namespace ServiceFault

/-- An evaluation that fails is an error of the server, every other fault one of the request. -/
def status : ServiceFault → Nat
  | evaluation _ => 500
  | _ => 400

def code : ServiceFault → String
  | validation _ => "VALIDATION_ERROR"
  | compilation cause => cause.code
  | invalidAst _ => "INVALID_AST"
  | evaluation _ => "EVALUATION_FAILED"

def message : ServiceFault → String
  | validation text => "参数验证失败: " ++ text
  | compilation cause => "规则编译失败: " ++ cause.message
  | invalidAst cause => "表达式树无效: " ++ cause.message
  | evaluation cause => "规则评估失败: " ++ cause.message

def toJson (fault : ServiceFault) : Json := .object
  [("code", .text fault.code), ("data", .null), ("message", .text fault.message),
    ("success", .bool false)]

end ServiceFault

end Rulebook
