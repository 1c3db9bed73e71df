import Rulebook.Proofs.Json.Spelling
import Rulebook.Proofs.Limits
import Rulebook.Proofs.Transport
import Rulebook.Service.Route

/-! # Compiled rules in answers

A request that asks for a rule is answered with what is compiled, within the limits of the settings
and so also without them, and the tree can be found in the body of the answer.
-/

namespace Rulebook.Service

open Json (Document)
open Json.Document (string?_symbols fields? field? scan Spells spells_text spells_bool spells_array
  spells_object)

section Compiling

inductive Task
  | rule (text : String)
  | combination (op : Connective) (texts : List String)

namespace Task

def compile (c : Compiler) : Task → Except Fault Rule
  | rule text => c.compile text
  | combination op texts => c.combine op texts

def violations : Task → List String
  | rule text => CompileRequest.violations ⟨text⟩
  | combination op texts => CombineRequest.violations ⟨texts, op⟩

/-- The request posts the task, in a body that can be read. -/
def PostedBy (r : HttpRequest) : Task → Prop
  | rule text => r.method = "POST" ∧ r.path = "/api/rules/compile" ∧
      readBody CompileRequest.ofDocument? r = .ok ⟨text⟩
  | combination op texts => r.method = "POST" ∧ r.path = "/api/rules/combine" ∧
      readBody CombineRequest.ofDocument? r = .ok ⟨texts, op⟩

end Task

variable {s : Service} {around : Surroundings} {r : HttpRequest} {task : Task}

theorem success_of_status {effect : Effect} (h : effect.reply.status = 200) :
    ∃ success, effect.result = .ok success ∧
      effect.reply.body = (envelope success.message success.data).print := by
  rw [Effect.reply] at h ⊢
  cases hr : effect.result with
  | ok success => exact ⟨success, rfl, rfl⟩
  | error fault =>
    rw [hr] at h
    cases fault <;> cases h

def compilation (violations : List String) (message : String) (compiled : Except Fault Rule) :
    Except ServiceFault Success :=
  if !violations.isEmpty then .error (.validation (violationText violations))
  else match compiled with
    | .ok rule => .ok ⟨message, rule.toJson⟩
    | .error cause => .error (.compilation cause)

theorem result_compile (s : Service) (body : CompileRequest) :
    (s.compile body).result =
      compilation body.violations "规则编译成功" (s.compiler.compile body.rule) := by
  unfold Service.compile compilation
  split
  · rfl
  · cases s.compiler.compile body.rule <;> rfl

theorem result_combine (s : Service) (body : CombineRequest) :
    (s.combine body).result =
      compilation body.violations "规则组合成功" (s.compiler.combine body.connective body.rules) := by
  unfold Service.combine compilation
  split
  · rfl
  · cases s.compiler.combine body.connective body.rules <;> rfl

theorem exists_of_compilation {violations : List String} {message : String}
    {compiled : Except Fault Rule} {success : Success}
    (h : compilation violations message compiled = .ok success) :
    ∃ rule, compiled = .ok rule ∧ success = ⟨message, rule.toJson⟩ := by
  unfold compilation at h
  split at h
  · cases h
  · cases compiled with
    | error fault => cases h
    | ok rule =>
      cases h
      exact ⟨rule, rfl, rfl⟩

theorem route_eq {endpoint : Endpoint} (hm : r.method = "POST")
    (hpath : Endpoint.ofPath? r.path = some endpoint) (hpost : endpoint.methods = ["POST"]) :
    s.route around r = s.dispatch around r endpoint := by
  rw [route, hpath]
  dsimp only
  rw [hpost, hm, if_pos (by decide)]

theorem perform_eq {α : Type} {reader : Document → Option α} {operation : α → Effect} {body : α}
    (h : readBody reader r = .ok body) : perform reader operation r = (operation body).reply := by
  rw [perform, h]

theorem route_rule {text : String} (hp : (Task.rule text).PostedBy r) :
    s.route around r = (s.compile ⟨text⟩).reply := by
  obtain ⟨hm, hpath, hb⟩ := hp
  rw [route_eq hm (congrArg Endpoint.ofPath? hpath) rfl, dispatch, perform_eq hb]

theorem route_posted (s : Service) (around : Surroundings) (hp : task.PostedBy r) :
    ∃ (effect : Effect) (message : String), s.route around r = effect.reply ∧
      effect.result = compilation task.violations message (task.compile s.compiler) := by
  cases task with
  | rule text => exact ⟨s.compile ⟨text⟩, _, route_rule hp, result_compile s ⟨text⟩⟩
  | combination op texts =>
    obtain ⟨hm, hpath, hb⟩ := hp
    refine ⟨s.combine ⟨texts, op⟩, _, ?_, result_combine s ⟨texts, op⟩⟩
    rw [route_eq hm (congrArg Endpoint.ofPath? hpath) rfl, dispatch, perform_eq hb]

/-- A task that is accepted is answered with what it is compiled to. -/
theorem exists_rule_of_status (hp : task.PostedBy r)
    (h : (s.handle around r).response.status = 200) :
    ∃ rule message, task.compile s.compiler = .ok rule ∧
      (s.handle around r).response.body = (envelope message rule.toJson).print := by
  change (s.route around r).status = 200 at h
  change ∃ rule message, _ ∧ (s.route around r).body = _
  obtain ⟨effect, message, hroute, hresult⟩ := route_posted s around hp
  rw [hroute] at h ⊢
  obtain ⟨success, hr, hbody⟩ := success_of_status h
  obtain ⟨rule, hc, rfl⟩ := exists_of_compilation (hresult ▸ hr)
  exact ⟨rule, message, hc, hbody⟩

/-- What is compiled within the limits of settings is compiled without limits. -/
theorem compile_unlimited {settings : EngineSettings} {rule : Rule}
    (h : task.compile (ofSettings settings).compiler = .ok rule) :
    task.compile {} = .ok rule ∧ rule.root.depth ≤ Expression.depthLimit := by
  have hn : (ofSettings settings).compiler.Narrower {} := by
    refine ⟨?_, ?_, (ofSettings settings).compiler.depth_le⟩
    · intro max hmax
      cases hmax
    · intro max hmax
      cases hmax
  cases task with
  | rule text =>
    exact ⟨Compiler.compile_of_narrower hn h, (Compiler.admits_of_compile h).isWritten.1⟩
  | combination op texts =>
    exact ⟨Compiler.combine_of_narrower hn h, (Compiler.admits_of_combine h).isWritten.1⟩

end Compiling

section Answers

def ruleDocument (rule : Rule) : Document := .object
  [(Json.symbols "ast", rule.root.document),
    (Json.symbols "rule", .text (Json.symbols rule.source)),
    (Json.symbols "referencedFields",
      .array (rule.fields.map fun field => .text (Json.symbols field)))]

def envelopeDocument (message : String) (data : Document) : Document := .object
  [(Json.symbols "success", .bool true), (Json.symbols "code", .text (Json.symbols "SUCCESS")),
    (Json.symbols "message", .text (Json.symbols message)), (Json.symbols "data", data)]

theorem spells_rule (rule : Rule) : Spells rule.toJson (ruleDocument rule) := by
  have hfields : Spells (.array (rule.fields.map .text))
      (.array (rule.fields.map fun field => .text (Json.symbols field))) := by
    refine spells_array (List.forall₂_map_left_iff.mpr (List.forall₂_map_right_iff.mpr ?_))
    exact List.forall₂_same.mpr fun field _ => spells_text field
  refine spells_object (.cons ⟨rfl, rule.root.spells_toJson⟩ (.cons ⟨rfl, ?_⟩
    (.cons ⟨rfl, ?_⟩ .nil)))
  · exact spells_text rule.source
  · exact hfields

theorem spells_envelope {data : Json} {document : Document} (h : Spells data document)
    (message : String) : Spells (envelope message data) (envelopeDocument message document) := by
  refine spells_object (.cons ⟨rfl, spells_bool true⟩ (.cons ⟨rfl, ?_⟩ (.cons ⟨rfl, ?_⟩
    (.cons ⟨rfl, h⟩ .nil))))
  · exact spells_text "SUCCESS"
  · exact spells_text message

/-- The response offers the document as the tree of a compiled rule. -/
def Offers (response : HttpResponse) (ast : Document) : Prop :=
  ∃ answer data, scan (Json.symbols response.body) = .ok (answer, []) ∧
    answer.fields? ["data"] = some [some data] ∧ data.fields? ["ast"] = some [some ast]

theorem Offers.unique {response : HttpResponse} {ast ast' : Document} (h : Offers response ast)
    (h' : Offers response ast') : ast = ast' := by
  obtain ⟨answer, data, hs, hd, ha⟩ := h
  obtain ⟨answer', data', hs', hd', ha'⟩ := h'
  cases hs.symm.trans hs'
  cases hd.symm.trans hd'
  cases ha.symm.trans ha'
  rfl

theorem offers_of_body {response : HttpResponse} {message : String} {rule : Rule}
    (h : response.body = (envelope message rule.toJson).print) :
    Offers response rule.root.document := by
  refine ⟨envelopeDocument message (ruleDocument rule), ruleDocument rule, ?_, ?_, ?_⟩
  · rw [h]
    exact Json.Document.scan_print (spells_envelope (spells_rule rule) message)
  · simp [envelopeDocument, fields?, string?_symbols, field?]
  · simp [ruleDocument, fields?, string?_symbols, field?]

end Answers

end Rulebook.Service
