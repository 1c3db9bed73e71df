import Rulebook.Json.Value
import Rulebook.Rule.Expression

/-! # Faults

What can be wrong with a rule, with the JSON form of an expression, or with an evaluation.
Every fault has a stable code and a message; a position counts tokens from 0.
-/

namespace Rulebook

inductive Malformation
  | unmatchedRight (position : Nat)
  | unclosedLeft (position : Nat)
  | missingOperand (position : Nat) (operator : Operator)
  | empty
  | unconnected (parts : Nat)
  | operandWithChildren
  | missingChildren (operator : Operator)
  | stated (reason : String)
deriving DecidableEq

namespace Malformation

def message : Malformation → String
  | unmatchedRight p => "位置 " ++ toString p ++ " 的右括号没有匹配的左括号"
  | unclosedLeft p => "位置 " ++ toString p ++ " 的左括号没有闭合"
  | missingOperand p op =>
    "位置 " ++ toString p ++ " 的操作符 '" ++ op.symbol ++ "' 缺少操作数"
  | empty => "表达式为空"
  | unconnected n => "表达式包含 " ++ toString n ++ " 个未被操作符连接的部分"
  | operandWithChildren => "操作数节点不能包含子节点"
  | missingChildren op => "操作符 '" ++ op.symbol ++ "' 缺少左右子节点"
  | stated reason => reason

end Malformation

inductive Fault
  | malformed (cause : Malformation)
  | emptyInput
  | invalidOperand (text : String)
  | invalidComparison (left right : String)
  | unknownOperator (text : String)
  | ruleTooLong (length max : Nat)
  | tooManyRules (count max : Nat)
  | treeTooDeep (max : Nat)
  | invalidContext (reason : String)
  | json (fault : JsonFault)
deriving DecidableEq

namespace Fault

def code : Fault → String
  | malformed _ => "MALFORMED_EXPRESSION"
  | emptyInput => "EMPTY_INPUT"
  | invalidOperand _ => "INVALID_OPERAND"
  | invalidComparison .. => "INVALID_COMPARISON"
  | unknownOperator _ => "UNKNOWN_OPERATOR"
  | ruleTooLong .. => "RULE_TOO_LONG"
  | tooManyRules .. => "TOO_MANY_RULES"
  | treeTooDeep _ => "TREE_TOO_DEEP"
  | invalidContext _ => "INVALID_CONTEXT"
  | json _ => "JSON_ERROR"

def message : Fault → String
  | malformed cause => "表达式格式错误: " ++ cause.message
  | emptyInput => "没有提供需要组合的规则"
  | invalidOperand text => "无效的操作数: " ++ text
  | invalidComparison left right => "无法比较 " ++ left ++ " 和 " ++ right
  | unknownOperator text => "未知的操作符: " ++ text
  | ruleTooLong length max => "规则长度 " ++ toString length ++ " 超过上限 " ++ toString max
  | tooManyRules count max => "组合规则数量 " ++ toString count ++ " 超过上限 " ++ toString max
  | treeTooDeep max => "表达式树深度超过上限 " ++ toString max
  | invalidContext reason => "无效的评估数据: " ++ reason
  | json fault => "JSON 序列化错误: " ++ fault.detail

end Fault

end Rulebook
