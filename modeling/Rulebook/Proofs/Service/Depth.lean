import Rulebook.Proofs.Service.Evaluation

/-! # Depth at the endpoints

The depth in the settings of a service bounds the trees that it compiles and combines: a rule that
comes to a deeper tree is refused for its depth. A tree that is posted for evaluation is held to
the greatest admitted depth only. So a service whose settings ask for less evaluates trees that it
would not compile.
-/

namespace Rulebook.Service

open Grammar (Arranges)
open Json.Document (Spells spells_object)
open List (Forall₂)

def HttpResponse.Refuses (response : HttpResponse) (code message : String) : Prop :=
  response.status = 400 ∧ response.body = (Json.object [("code", .text code), ("data", .null),
    ("message", .text message), ("success", .bool false)]).print

variable {settings : EngineSettings} {s : Service} {around : Surroundings} {r : HttpRequest}
  {e : Expression}

theorem refuses_of_route {effect : Effect} {fault : ServiceFault}
    (hr : s.route around r = effect.reply) (hf : effect.result = .error fault)
    (hs : fault.status = 400) :
    (s.handle around r).response.Refuses fault.code fault.message := by
  rw [HttpResponse.Refuses, handle, hr, Effect.reply, hf]
  exact ⟨hs, rfl⟩

theorem message_compilation (max : Nat) :
    (ServiceFault.compilation (.treeTooDeep max)).message =
      "规则编译失败: " ++ ("表达式树深度超过上限 " ++ toString max) := rfl

theorem message_invalidAst (max : Nat) :
    (ServiceFault.invalidAst (.treeTooDeep max)).message =
      "表达式树无效: " ++ ("表达式树深度超过上限 " ++ toString max) := rfl

section Compiling

variable {task : Task}

namespace Task

def ComesTo : Task → Expression → Prop
  | rule text, e => Arranges .disjunction (Token.tokenize text) e.polish
  | combination op texts, e => ∃ tree trees,
      Forall₂ (fun text next => Arranges .disjunction (Token.tokenize text) next.polish) texts
        (tree :: trees) ∧ e = .joined op tree trees

def TextsFit (settings : EngineSettings) (texts : List String) : Prop :=
  ∀ text ∈ texts, text ≠ "" ∧ text.utf8ByteSize ≤ settings.ruleLength

/-- The task breaks no limit of the settings, if not the one on depth. -/
def Fits (settings : EngineSettings) : Task → Prop
  | rule text => TextsFit settings [text]
  | combination _ texts => texts.length ≤ settings.ruleCount ∧ TextsFit settings texts

theorem violations_of_fits (h : task.Fits settings) : task.violations = [] := by
  cases task with
  | rule text =>
    have hne := (h text (List.mem_singleton_self text)).1
    simp [violations, CompileRequest.violations, hne]
  | combination op texts =>
    have hne : ¬ texts.any String.isEmpty := by
      rw [List.any_eq_true]
      rintro ⟨text, hm, hempty⟩
      exact (h.2 text hm).1 (String.isEmpty_iff.mp hempty)
    rw [violations, CombineRequest.violations, if_neg hne]

theorem checkLength_of_fits {texts : List String} {text : String}
    (h : TextsFit settings texts) (hm : text ∈ texts) :
    (ofSettings settings).compiler.checkLength text = .ok () := by
  rw [Compiler.checkLength_eq, Compiler.within_eq_ok_iff]
  rintro max hmax
  obtain rfl := Option.some.inj hmax
  exact (h text hm).2

theorem compile_of_comesTo (hf : task.Fits settings) (h : task.ComesTo e) :
    (task.compile (ofSettings settings).compiler).map (·.root) =
      if e.depth ≤ max 1 (min settings.depth 100) then .ok e
      else .error (.treeTooDeep (min settings.depth 100)) := by
  cases task with
  | rule text =>
    have hlength := checkLength_of_fits hf (List.mem_singleton_self text)
    have hparse := Compiler.Reads.parse ⟨hlength, h⟩
    change _ = if e.depth ≤ max 1 (min settings.depth 100) then _ else _ at hparse
    rw [compile, Compiler.compile, hparse]
    split <;> rfl
  | combination op texts =>
    obtain ⟨tree, trees, harranges, rfl⟩ := h
    obtain ⟨hcount, hfit⟩ := hf
    have hreads : Forall₂ (ofSettings settings).compiler.Reads texts (tree :: trees) := by
      rw [List.forall₂_iff_get] at harranges ⊢
      refine ⟨harranges.1, fun i hi hj => ⟨?_, harranges.2 i hi hj⟩⟩
      exact checkLength_of_fits hfit (List.getElem_mem hi)
    have hok : (ofSettings settings).compiler.checkCount texts = .ok () := by
      rw [Compiler.checkCount_eq, Compiler.within_eq_ok_iff]
      rintro max hmax
      obtain rfl := Option.some.inj hmax
      exact hcount
    have hjoin : (ofSettings settings).compiler.join op texts = _ := Compiler.join_of_reads hreads
    change _ = if _ ≤ max 1 (min settings.depth 100) then _ else _ at hjoin
    rw [compile, Compiler.combine, hok, ok_bind, hjoin]
    split <;> rfl

theorem comesTo_of_compile {rule : Rule}
    (h : task.compile (ofSettings settings).compiler = .ok rule) :
    task.ComesTo rule.root ∧ rule.root.depth ≤ max 1 (min settings.depth 100) := by
  cases task with
  | rule text =>
    obtain ⟨-, hparse⟩ := Compiler.compile_eq_ok_iff.mp h
    exact ⟨Compiler.arranges_of_parse hparse, (Compiler.admits_of_compile h).depth_le⟩
  | combination op texts =>
    obtain ⟨tree, trees, hparse, hroot⟩ := Compiler.exists_joined_of_combine h
    refine ⟨⟨tree, trees, ?_, hroot⟩, (Compiler.admits_of_combine h).depth_le⟩
    exact hparse.imp fun _ _ => Compiler.arranges_of_parse

end Task

/-- A task within the other limits is answered with its tree, or refused for its depth. -/
theorem response_of_comesTo (hp : task.PostedBy r) (hf : task.Fits settings)
    (h : task.ComesTo e) :
    let response := ((ofSettings settings).handle around r).response
    if e.depth ≤ max 1 (min settings.depth 100) then
      response.status = 200 ∧ Offers response e.document
    else response.Refuses "TREE_TOO_DEEP"
      ("规则编译失败: " ++ ("表达式树深度超过上限 " ++ toString (min settings.depth 100))) := by
  intro response
  obtain ⟨effect, message, hroute, hresult⟩ := route_posted (ofSettings settings) around hp
  have hcompile := Task.compile_of_comesTo hf h
  rw [Task.violations_of_fits hf] at hresult
  split
  · next hd =>
    rw [if_pos hd] at hcompile
    cases hc : task.compile (ofSettings settings).compiler with
    | error fault =>
      rw [hc] at hcompile
      cases hcompile
    | ok rule =>
      rw [hc] at hcompile hresult
      obtain rfl := Except.ok.inj hcompile
      have hreply : effect.reply.status = 200 ∧
          effect.reply.body = (envelope message rule.toJson).print := by
        rw [Effect.reply, hresult]
        exact ⟨rfl, rfl⟩
      rw [← hroute] at hreply
      exact ⟨hreply.1, offers_of_body hreply.2⟩
  · next hd =>
    rw [if_neg hd] at hcompile
    cases hc : task.compile (ofSettings settings).compiler with
    | error fault =>
      rw [hc] at hcompile hresult
      obtain rfl := Except.error.inj hcompile
      have hrefuses := refuses_of_route hroute hresult rfl
      rw [message_compilation] at hrefuses
      exact hrefuses
    | ok rule =>
      rw [hc] at hcompile
      cases hcompile

end Compiling

section Evaluating

variable {ast : Json} {members : List (String × Json)} {flag : Option Bool}

/-- A posted tree is evaluated, or refused for a depth over the greatest admitted one. -/
theorem response_of_postsAst (s : Service) (around : Surroundings)
    (h : PostsAst r ast members flag) (hd : ast.Denotes e) :
    let response := (s.handle around r).response
    if e.depth ≤ 100 then
      Answers response e ⟨members⟩ (flag.getD s.tracing) around.micros
    else response.Refuses "INVALID_AST"
      ("表达式树无效: " ++ ("表达式树深度超过上限 " ++ toString 100)) := by
  intro response
  split
  · next hdepth => exact answers_of_postsAst h hd hdepth
  · next hdepth =>
    have hroute : s.route around r = _ := route_ast h hd
    rw [if_neg (show ¬ e.depth ≤ Expression.depthLimit from hdepth)] at hroute
    have hrefuses := refuses_of_route hroute rfl rfl
    rw [message_invalidAst] at hrefuses
    exact hrefuses

theorem not_refuses_of_answers {response : HttpResponse} {record : Record} {tracing : Bool}
    {micros : Nat} {code message : String} (h : Answers response e record tracing micros) :
    ¬ response.Refuses code message := by
  rintro ⟨hstatus, -⟩
  rw [Answers] at h
  cases hv : e.evaluate record with
  | ok v =>
    rw [hv] at h
    exact absurd (h.1.symm.trans hstatus) (by decide)
  | error fault =>
    rw [hv] at h
    exact absurd (h.1.symm.trans hstatus) (by decide)

theorem exists_denotes_of_status {body : EvaluateRequest} (hm : r.method = "POST")
    (hpath : r.path = "/api/rules/evaluate")
    (hbody : readBody EvaluateRequest.ofDocument? r = .ok body)
    (hs : (s.handle around r).response.status ≠ 400) :
    ∃ e, body.ast.Denotes e ∧ e.depth ≤ 100 := by
  change (s.route around r).status ≠ 400 at hs
  rw [route_eq hm (congrArg Endpoint.ofPath? hpath) rfl, dispatch, perform_eq hbody, evaluate]
    at hs
  split at hs
  · exact absurd rfl hs
  · split at hs
    · exact absurd rfl hs
    · next e he => exact ⟨e, Expression.denotes_of_ofJson he⟩

def postTree (e : Expression) : HttpRequest :=
  post "/api/rules/evaluate" (.object [("ast", e.toJson), ("userData", .object [])])

theorem postsAst_postTree
    (ha : isAscii (Json.write (.object [("ast", e.toJson), ("userData", .object [])]) []))
    (hsize : (postTree e).body.length ≤ maxBody) (hd : e.depth < Json.maxNesting) :
    PostsAst (postTree e) e.toJson.sorted [] none := by
  have hspells : Spells (.object [("ast", e.toJson), ("userData", .object [])])
      (.object [(Json.symbols "ast", e.document), (Json.symbols "userData", .object [])]) :=
    spells_object (.cons ⟨rfl, e.spells_toJson⟩ (.cons ⟨rfl, spells_object .nil⟩ .nil))
  have hast : e.document.toJson? fieldNesting = some e.toJson.sorted := by
    have hle : e.depth ≤ fieldNesting := Nat.le_of_lt_succ hd
    rw [Json.Document.toJson?, Expression.toJsonWith_document, if_pos hle]
    rfl
  refine ⟨rfl, rfl, readBody_post hspells ha hsize ?_⟩
  rw [EvaluateRequest.ofDocument?]
  simp [Json.Document.fields?, Json.Document.string?_symbols, Json.Document.field?, hast]
  rfl

theorem exists_postsAst_deepest :
    ∃ r ast e, PostsAst r ast [] none ∧ ast.Denotes e ∧ e.depth = 100 := by
  have hdepth : (Expression.chain "a" 99).depth = 100 := Expression.depth_chain "a" 99
  have hlt : (Expression.chain "a" 99).depth < Json.maxNesting := by
    rw [hdepth]
    decide
  exact ⟨_, _, _, postsAst_postTree (by decide +kernel) (by decide +kernel) hlt,
    Json.denotes_of_carries (Json.carries_sorted _), hdepth⟩

def RefusesDeeper (s : Service) (bound : Nat) : Prop :=
  ∀ (around : Surroundings) (r : HttpRequest) (ast : Json) (members : List (String × Json))
    (flag : Option Bool) (e : Expression), PostsAst r ast members flag → ast.Denotes e →
    bound < e.depth → ∃ message, (s.handle around r).response.Refuses "INVALID_AST" message

/-- Only the greatest admitted depth is one that no expression posted for evaluation exceeds. -/
theorem refusesDeeper_iff (settings : EngineSettings) :
    (ofSettings settings).RefusesDeeper (max 1 (min settings.depth 100)) ↔
      100 ≤ settings.depth := by
  constructor
  · intro h
    by_contra hdepth
    obtain ⟨r, ast, e, hposts, hdenotes, he⟩ := exists_postsAst_deepest
    obtain ⟨message, hrefuses⟩ := h ⟨"", 0⟩ r ast [] none e hposts hdenotes (by omega)
    exact not_refuses_of_answers (answers_of_postsAst hposts hdenotes he.le) hrefuses
  · intro hdepth around r ast members flag e hposts hdenotes hdeeper
    have hresponse := response_of_postsAst (ofSettings settings) around hposts hdenotes
    rw [if_neg (by omega)] at hresponse
    exact ⟨_, hresponse⟩

end Evaluating

/-- The depth in the settings bounds what is compiled; the greatest one bounds what is evaluated. -/
theorem depth_at_endpoints (settings : EngineSettings) :
    let s := ofSettings settings
    let bound := max 1 (min settings.depth 100)
    (∀ (around : Surroundings) (r : HttpRequest) (task : Task) (e : Expression),
      task.PostedBy r → task.Fits settings → task.ComesTo e →
      if e.depth ≤ bound then
        (s.handle around r).response.status = 200 ∧ Offers (s.handle around r).response e.document
      else (s.handle around r).response.Refuses "TREE_TOO_DEEP"
        ("规则编译失败: " ++ ("表达式树深度超过上限 " ++ toString (min settings.depth 100)))) ∧
    (∀ (around : Surroundings) (r : HttpRequest) (task : Task), task.PostedBy r →
      (s.handle around r).response.status = 200 →
      ∃ e, task.ComesTo e ∧ e.depth ≤ bound ∧ Offers (s.handle around r).response e.document) ∧
    (∀ (around : Surroundings) (r : HttpRequest) (ast : Json) (members : List (String × Json))
      (flag : Option Bool) (e : Expression), PostsAst r ast members flag → ast.Denotes e →
      if e.depth ≤ 100 then
        Answers (s.handle around r).response e ⟨members⟩ (flag.getD settings.tracing) around.micros
      else (s.handle around r).response.Refuses "INVALID_AST"
        ("表达式树无效: " ++ ("表达式树深度超过上限 " ++ toString 100))) ∧
    (∀ (around : Surroundings) (r : HttpRequest) (body : EvaluateRequest), r.method = "POST" →
      r.path = "/api/rules/evaluate" → readBody EvaluateRequest.ofDocument? r = .ok body →
      (s.handle around r).response.status ≠ 400 → ∃ e, body.ast.Denotes e ∧ e.depth ≤ 100) ∧
    (s.RefusesDeeper bound ↔ 100 ≤ settings.depth) := by
  intro s bound
  refine ⟨?compiled, ?produced, ?posted, ?evaluated, refusesDeeper_iff settings⟩
  case compiled =>
    intro around r task e hp hf h
    exact response_of_comesTo hp hf h
  case produced =>
    intro around r task hp hok
    obtain ⟨rule, message, hc, hbody⟩ := exists_rule_of_status hp hok
    obtain ⟨hcomes, hdepth⟩ := Task.comesTo_of_compile hc
    exact ⟨rule.root, hcomes, hdepth, offers_of_body hbody⟩
  case posted =>
    intro around r ast members flag e hposts hdenotes
    exact response_of_postsAst s around hposts hdenotes
  case evaluated =>
    intro around r body hm hpath hbody hs
    exact exists_denotes_of_status hm hpath hbody hs

theorem depth_at_endpoints_low :
    let settings : EngineSettings := { depth := 3 }
    let s := ofSettings settings
    let around : Surroundings := ⟨"fresh", 7⟩
    let e := Expression.chain "a" 3
    let shallow := postRule "a AND a AND a"
    let deep := postRule "a AND a AND a AND a"
    (Task.rule "a AND a AND a").PostedBy shallow ∧
      (Task.rule "a AND a AND a").ComesTo (.chain "a" 2) ∧
      (s.handle around shallow).response.status = 200 ∧
      (Task.rule "a AND a AND a AND a").PostedBy deep ∧
      (Task.rule "a AND a AND a AND a").Fits settings ∧
      (Task.rule "a AND a AND a AND a").ComesTo e ∧
      (s.handle around deep).response.Refuses "TREE_TOO_DEEP"
        ("规则编译失败: " ++ ("表达式树深度超过上限 " ++ toString 3)) ∧
      PostsAst (postTree e) e.toJson.sorted [] none ∧ e.toJson.sorted.Denotes e ∧
      Answers (s.handle around (postTree e)).response e ⟨[]⟩ false 7 := by
  intro settings s around e shallow deep
  have hfits (text : String) (hne : text ≠ "") (hle : text.utf8ByteSize ≤ 4096) :
      (Task.rule text).Fits settings := by
    intro text' hm
    obtain rfl := List.mem_singleton.mp hm
    exact ⟨hne, hle⟩
  have hshallow : (Task.rule "a AND a AND a").PostedBy shallow :=
    postedBy_postRule (by decide +kernel) (by decide +kernel)
  have hdeep : (Task.rule "a AND a AND a AND a").PostedBy deep :=
    postedBy_postRule (by decide +kernel) (by decide +kernel)
  have hcomes : (Task.rule "a AND a AND a").ComesTo (.chain "a" 2) :=
    Compiler.arranges_of_parse (c := {}) rfl
  have hcomes' : (Task.rule "a AND a AND a AND a").ComesTo e :=
    Compiler.arranges_of_parse (c := {}) rfl
  have hposts : PostsAst (postTree e) e.toJson.sorted [] none :=
    postsAst_postTree (by decide +kernel) (by decide +kernel) (by decide)
  have hdenotes : e.toJson.sorted.Denotes e := Json.denotes_of_carries (Json.carries_sorted e)
  obtain ⟨hcompiled, -, hevaluated, -, -⟩ := depth_at_endpoints settings
  exact ⟨hshallow, hcomes, (hcompiled around _ _ _ hshallow (hfits _ (by decide) (by decide))
      hcomes).1, hdeep, hfits _ (by decide) (by decide), hcomes',
    hcompiled around _ _ _ hdeep (hfits _ (by decide) (by decide)) hcomes', hposts, hdenotes,
    hevaluated around _ _ _ _ _ hposts hdenotes⟩

/-- Where three levels are admitted, four are evaluated. -/
theorem evaluates_deeper_than_settings :
    let s := ofSettings { depth := 3 }
    let e := Expression.chain "a" 3
    PostsAst (postTree e) e.toJson.sorted [] none ∧ e.toJson.sorted.Denotes e ∧
      max 1 (min 3 100) < e.depth ∧
      (∀ around, (s.handle around (postTree e)).response.status = 200) ∧
      ¬ s.RefusesDeeper (max 1 (min 3 100)) := by
  intro s e
  have hposts : PostsAst (postTree e) e.toJson.sorted [] none :=
    postsAst_postTree (by decide +kernel) (by decide +kernel) (by decide)
  have hdenotes : e.toJson.sorted.Denotes e := Json.denotes_of_carries (Json.carries_sorted e)
  have hstatus (around : Surroundings) : (s.handle around (postTree e)).response.status = 200 := by
    have hanswers : Answers (s.handle around (postTree e)).response e ⟨[]⟩ _ _ :=
      answers_of_postsAst hposts hdenotes (by decide)
    have hvalue : e.evaluate ⟨[]⟩ = .ok (.bool true) := by rfl
    rw [Answers, hvalue] at hanswers
    exact hanswers.1
  refine ⟨hposts, hdenotes, by decide, hstatus, fun h => ?_⟩
  obtain ⟨message, hrefused, -⟩ := h ⟨"", 0⟩ _ _ _ _ e hposts hdenotes (by decide)
  exact absurd ((hstatus _).symm.trans hrefused) (by decide)

end Rulebook.Service
