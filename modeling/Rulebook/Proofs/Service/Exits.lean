import Rulebook.Proofs.Service.Evaluation

/-! # Exits

A request that reaches an endpoint for rules leaves it by one of a few exits: its form is refused,
the rule is granted, or something is wrong with the rule. What is counted depends on the exit, and
the answer tells which one was taken.
-/

namespace Rulebook

open Json.Document (Spells spells_null spells_bool spells_text spells_object scan_print fields?
  field? string?_symbols text?)

def Sample.IsOfRule (sample : Sample) : Prop := "rule_".toList <+: sample.name.toList

namespace Service

section Codes

def HttpResponse.code? (response : HttpResponse) : Option String :=
  Json.Document.read? (fun answer => do
    let [some code] ← answer.fields? ["code"] | none
    code.text?) (Json.symbols response.body)

/-- The request was not granted, for the reason that the code names. -/
def HttpResponse.FailsWith (response : HttpResponse) (code : String) : Prop :=
  response.status ≠ 200 ∧ response.code? = some code

theorem code?_fault (status : Nat) (requestId : String) (fault : ServiceFault) :
    HttpResponse.code? ⟨status, requestId, fault.toJson.print⟩ = some fault.code := by
  have hspells : Spells fault.toJson (.object
      [(Json.symbols "code", .text (Json.symbols fault.code)), (Json.symbols "data", .null),
        (Json.symbols "message", .text (Json.symbols fault.message)),
        (Json.symbols "success", .bool false)]) :=
    spells_object (.cons ⟨rfl, spells_text _⟩ (.cons ⟨rfl, spells_null⟩
      (.cons ⟨rfl, spells_text _⟩ (.cons ⟨rfl, spells_bool _⟩ .nil))))
  rw [HttpResponse.code?, Json.Document.read?, scan_print hspells]
  simp [Except.toOption, fields?, field?, text?, string?_symbols, Json.Document.isEnd,
    Json.skipSpace]

theorem code_ne (fault : Fault) :
    fault.code ≠ "VALIDATION_ERROR" ∧ fault.code ≠ "INVALID_AST" := by
  cases fault <;> simp [Fault.code]

end Codes

section Exits

def Endpoint.operation? : Endpoint → Option String
  | .compile => some "compile"
  | .combine => some "combine"
  | _ => none

/-- The ways out of an endpoint for rules, with what is counted on each. -/
inductive Exit : Endpoint → Except ServiceFault Success → List Sample → Prop
  | invalid (endpoint : Endpoint) (text : String) : Exit endpoint (.error (.validation text)) []
  | built {endpoint : Endpoint} {operation : String} (h : endpoint.operation? = some operation)
      (success : Success) :
      Exit endpoint (.ok success) (Sample.ofCompilation operation "success")
  | notBuilt {endpoint : Endpoint} {operation : String} (h : endpoint.operation? = some operation)
      (cause : Fault) :
      Exit endpoint (.error (.compilation cause)) (Sample.ofCompilation operation "error")
  | invalidAst (cause : Fault) : Exit .evaluate (.error (.invalidAst cause)) []
  | evaluated (success : Success) : Exit .evaluate (.ok success) (Sample.ofEvaluation "success")
  | notEvaluated (cause : Fault) :
      Exit .evaluate (.error (.evaluation cause)) (Sample.ofEvaluation "error")

def Reply.Leaves (reply : Reply) (endpoint : Endpoint) : Prop :=
  ∃ effect : Effect, reply = effect.reply ∧ Exit endpoint effect.result effect.samples

def HttpRequest.Reaches (r : HttpRequest) (endpoint : Endpoint) : Prop :=
  Endpoint.ofPath? r.path = some endpoint ∧ endpoint.methods.contains r.method

variable {s : Service} {around : Surroundings} {r : HttpRequest} {endpoint : Endpoint}

theorem exit_compile (body : CompileRequest) :
    Exit .compile (s.compile body).result (s.compile body).samples := by
  unfold Service.compile
  split
  · exact .invalid _ _
  · cases s.compiler.compile body.rule with
    | ok rule => exact .built rfl _
    | error cause => exact .notBuilt rfl _

theorem exit_combine (body : CombineRequest) :
    Exit .combine (s.combine body).result (s.combine body).samples := by
  unfold Service.combine
  split
  · exact .invalid _ _
  · cases s.compiler.combine body.connective body.rules with
    | ok rule => exact .built rfl _
    | error cause => exact .notBuilt rfl _

theorem exit_evaluate (micros : Nat) (body : EvaluateRequest) :
    Exit .evaluate (s.evaluate micros body).result (s.evaluate micros body).samples := by
  unfold Service.evaluate
  split
  · exact .invalid _ _
  · cases Expression.ofJson body.ast with
    | error cause => exact .invalidAst _
    | ok e =>
      cases Record.ofJson body.userData with
      | error cause => exact .invalid _ _
      | ok record =>
        dsimp only
        unfold run
        cases e.execute (body.trace.getD s.tracing) record with
        | ok outcome => exact .evaluated _
        | error cause => exact .notEvaluated _

theorem leaves_perform {α : Type} {reader : Json.Document → Option α} {operation : α → Effect}
    (h : ∀ body, Exit endpoint (operation body).result (operation body).samples) :
    (perform reader operation r).Leaves endpoint := by
  unfold perform
  cases hbody : readBody reader r with
  | ok body => exact ⟨_, rfl, h body⟩
  | error fault =>
    obtain ⟨text, rfl⟩ := exists_text_of_readBody hbody
    exact ⟨_, rfl, .invalid _ _⟩

/-- A request leaves an endpoint for rules by an exit, and otherwise counts for no rule. -/
theorem route_cases (s : Service) (around : Surroundings) (r : HttpRequest) :
    (∃ endpoint, r.Reaches endpoint ∧ (s.route around r).Leaves endpoint) ∨
      (∀ endpoint, r.Reaches endpoint → endpoint = .health) ∧ (s.route around r).samples = [] := by
  unfold route
  cases hpath : Endpoint.ofPath? r.path with
  | none =>
    refine .inr ⟨?_, rfl⟩
    rintro endpoint ⟨h, -⟩
    cases hpath.symm.trans h
  | some endpoint =>
    dsimp only
    by_cases hmethod : endpoint.methods.contains r.method
    · rw [if_pos hmethod]
      cases endpoint with
      | compile => exact .inl ⟨_, ⟨hpath, hmethod⟩, leaves_perform exit_compile⟩
      | combine => exact .inl ⟨_, ⟨hpath, hmethod⟩, leaves_perform exit_combine⟩
      | evaluate => exact .inl ⟨_, ⟨hpath, hmethod⟩, leaves_perform (exit_evaluate around.micros)⟩
      | health =>
        refine .inr ⟨?_, rfl⟩
        rintro endpoint ⟨h, -⟩
        exact (Option.some.inj (hpath.symm.trans h)).symm
    · rw [if_neg hmethod]
      refine .inr ⟨?_, rfl⟩
      rintro endpoint' ⟨h, h'⟩
      obtain rfl := Option.some.inj (hpath.symm.trans h)
      exact absurd h' hmethod

end Exits

section Telling

def builtSamples (operation : String) (response : HttpResponse) : List Sample :=
  if response.status = 200 then Sample.ofCompilation operation "success"
  else if response.status = 400 ∧ response.code? ≠ some "VALIDATION_ERROR" then
    Sample.ofCompilation operation "error"
  else []

def evaluatedSamples (response : HttpResponse) : List Sample :=
  if response.status = 200 then Sample.ofEvaluation "success"
  else if response.status = 500 then Sample.ofEvaluation "error"
  else []

def Endpoint.samples : Endpoint → HttpResponse → List Sample
  | .compile => builtSamples "compile"
  | .combine => builtSamples "combine"
  | .evaluate => evaluatedSamples
  | .health => fun _ => []

/-- What is counted for a rule, by where the request goes and what the answer says. -/
def ruleSamples (r : HttpRequest) (response : HttpResponse) : List Sample :=
  match Endpoint.ofPath? r.path with
  | some endpoint => if endpoint.methods.contains r.method then endpoint.samples response else []
  | none => []

variable {s : Service} {around : Surroundings} {r : HttpRequest} {endpoint : Endpoint}
  {response : HttpResponse} {reply : Reply}

theorem ruleSamples_of_reaches (h : r.Reaches endpoint) :
    ruleSamples r response = endpoint.samples response := by
  obtain ⟨hpath, hmethod⟩ := h
  rw [ruleSamples, hpath]
  exact if_pos hmethod

theorem ruleSamples_of_health (h : ∀ endpoint, r.Reaches endpoint → endpoint = .health) :
    ruleSamples r response = [] := by
  unfold ruleSamples
  cases hpath : Endpoint.ofPath? r.path with
  | none => rfl
  | some endpoint =>
    dsimp only
    split
    · next hmethod =>
      obtain rfl := h endpoint ⟨hpath, hmethod⟩
      rfl
    · rfl

theorem samples_of_operation? {operation : String} (h : endpoint.operation? = some operation) :
    endpoint.samples response = builtSamples operation response := by
  cases endpoint <;> cases h <;> rfl

theorem samples_validation (requestId text : String) :
    endpoint.samples ⟨400, requestId, (ServiceFault.validation text).toJson.print⟩ = [] := by
  cases endpoint <;>
    simp [Endpoint.samples, builtSamples, evaluatedSamples, code?_fault, ServiceFault.code]

theorem builtSamples_compilation (operation requestId : String) (cause : Fault) :
    builtSamples operation ⟨400, requestId, (ServiceFault.compilation cause).toJson.print⟩ =
      Sample.ofCompilation operation "error" := by
  simp [builtSamples, code?_fault, ServiceFault.code, (code_ne cause).1]

theorem samples_of_leaves (h : reply.Leaves endpoint) (requestId : String) :
    reply.samples = endpoint.samples ⟨reply.status, requestId, reply.body⟩ := by
  obtain ⟨⟨result, activities, samples⟩, rfl, hexit⟩ := h
  cases hexit with
  | invalid _ text => exact (samples_validation requestId text).symm
  | built hop success =>
    rw [samples_of_operation? hop]
    rfl
  | notBuilt hop cause =>
    rw [samples_of_operation? hop]
    exact (builtSamples_compilation _ requestId cause).symm
  | invalidAst cause => rfl
  | evaluated success => rfl
  | notEvaluated cause => rfl

theorem samples_of_failsWith {requestId code : String} (h : reply.Leaves endpoint)
    (hcode : code = "VALIDATION_ERROR" ∨ code = "INVALID_AST")
    (hf : HttpResponse.FailsWith ⟨reply.status, requestId, reply.body⟩ code) :
    reply.samples = [] := by
  obtain ⟨⟨result, activities, samples⟩, rfl, hexit⟩ := h
  obtain ⟨hstatus, hread⟩ := hf
  cases hexit with
  | invalid _ text => rfl
  | built hop success => exact absurd rfl hstatus
  | notBuilt hop cause =>
    have hsame := (code?_fault _ requestId (.compilation cause)).symm.trans hread
    rcases hcode with rfl | rfl
    · exact absurd (Option.some.inj hsame) (code_ne cause).1
    · exact absurd (Option.some.inj hsame) (code_ne cause).2
  | invalidAst cause => rfl
  | evaluated success => exact absurd rfl hstatus
  | notEvaluated cause =>
    have hsame := (code?_fault _ requestId (.evaluation cause)).symm.trans hread
    rcases hcode with rfl | rfl <;> simp [ServiceFault.code] at hsame

/-- The answer to a request tells all that is counted for it. -/
theorem samples_handle (s : Service) (around : Surroundings) (r : HttpRequest) :
    (s.handle around r).samples = ruleSamples r (s.handle around r).response ++
      Sample.ofRequest r.method r.path (s.handle around r).response.status := by
  refine congrArg (· ++ Sample.ofRequest r.method r.path (s.route around r).status) ?_
  rcases route_cases s around r with ⟨endpoint, hreach, hleave⟩ | ⟨hhealth, hnone⟩
  · rw [ruleSamples_of_reaches hreach]
    exact samples_of_leaves hleave _
  · rw [ruleSamples_of_health hhealth]
    exact hnone

theorem ruleSamples_of_failsWith {code : String}
    (hcode : code = "VALIDATION_ERROR" ∨ code = "INVALID_AST")
    (hf : (s.handle around r).response.FailsWith code) :
    ruleSamples r (s.handle around r).response = [] := by
  rcases route_cases s around r with ⟨endpoint, hreach, hleave⟩ | ⟨hhealth, -⟩
  · rw [ruleSamples_of_reaches hreach]
    exact (samples_of_leaves hleave _).symm.trans (samples_of_failsWith hleave hcode hf)
  · exact ruleSamples_of_health hhealth

end Telling

section Exchanges

variable {s : Service} {around : Surroundings} {r : HttpRequest} {response : HttpResponse}
  {endpoint : Endpoint} {sample : Sample} {operation status : String}

theorem mem_builtSamples_iff : sample ∈ builtSamples operation response ↔
    response.status = 200 ∧ sample ∈ Sample.ofCompilation operation "success" ∨
    (response.status = 400 ∧ response.code? ≠ some "VALIDATION_ERROR") ∧
      sample ∈ Sample.ofCompilation operation "error" := by
  unfold builtSamples
  split
  · next h => simp [h]
  · next h =>
    split
    · next h' => simp [h']
    · next h' => simp [h, h']

theorem mem_evaluatedSamples_iff : sample ∈ evaluatedSamples response ↔
    response.status = 200 ∧ sample ∈ Sample.ofEvaluation "success" ∨
    response.status = 500 ∧ sample ∈ Sample.ofEvaluation "error" := by
  unfold evaluatedSamples
  split
  · next h => simp [h]
  · next h =>
    split
    · next h' => simp [h']
    · next h' => simp [h, h']

theorem isOfRule_of_name (h : sample.name ∈ ["rule_compilations_total", "rule_evaluations_total",
    "rule_evaluation_duration_seconds"]) : sample.IsOfRule := by
  simp only [List.mem_cons, List.not_mem_nil, or_false] at h
  rw [Sample.IsOfRule]
  rcases h with h | h | h <;>
  · rw [h]
    decide

theorem isOfRule_of_mem (h : sample ∈ endpoint.samples response) : sample.IsOfRule := by
  have hbuilt (operation : String) (h : sample ∈ builtSamples operation response) :
      sample.IsOfRule := by
    rw [mem_builtSamples_iff] at h
    rcases h with ⟨-, h⟩ | ⟨-, h⟩ <;>
    · obtain rfl := List.mem_singleton.mp h
      exact isOfRule_of_name (by simp)
  have hevaluated (h : sample ∈ evaluatedSamples response) : sample.IsOfRule := by
    rw [mem_evaluatedSamples_iff] at h
    rcases h with ⟨-, h⟩ | ⟨-, h⟩ <;>
    · rcases List.mem_cons.mp h with rfl | h
      · exact isOfRule_of_name (by simp)
      · obtain rfl := List.mem_singleton.mp h
        exact isOfRule_of_name (by simp)
  cases endpoint with
  | compile => exact hbuilt _ h
  | combine => exact hbuilt _ h
  | evaluate => exact hevaluated h
  | health => cases h

theorem not_isOfRule_of_mem {method path : String} {status : Nat}
    (h : sample ∈ Sample.ofRequest method path status) : ¬ sample.IsOfRule := by
  rcases List.mem_cons.mp h with rfl | h
  · exact (by decide : ¬ "rule_".toList <+: "http_requests_total".toList)
  · obtain rfl := List.mem_singleton.mp h
    exact (by decide : ¬ "rule_".toList <+: "http_request_duration_seconds".toList)

theorem mem_ruleSamples_iff : sample ∈ ruleSamples r response ↔
    ∃ endpoint, r.Reaches endpoint ∧ sample ∈ endpoint.samples response := by
  constructor
  · intro h
    by_contra hnone
    have hhealth (endpoint : Endpoint) (hreach : r.Reaches endpoint) : endpoint = .health := by
      rw [ruleSamples_of_reaches hreach] at h
      exact absurd ⟨endpoint, hreach, h⟩ hnone
    rw [ruleSamples_of_health hhealth] at h
    cases h
  · rintro ⟨endpoint, hreach, h⟩
    rw [ruleSamples_of_reaches hreach]
    exact h

theorem nodup_samples (endpoint : Endpoint) (response : HttpResponse) :
    (endpoint.samples response).Nodup := by
  have hbuilt (operation : String) : (builtSamples operation response).Nodup := by
    unfold builtSamples
    split_ifs <;> simp [Sample.ofCompilation]
  cases endpoint with
  | compile => exact hbuilt _
  | combine => exact hbuilt _
  | evaluate =>
    rw [Endpoint.samples, evaluatedSamples]
    split_ifs <;> simp [Sample.ofEvaluation]
  | health => exact List.nodup_nil

theorem nodup_handle (s : Service) (around : Surroundings) (r : HttpRequest) :
    (s.handle around r).samples.Nodup := by
  rw [samples_handle, List.nodup_append]
  refine ⟨?_, by simp [Sample.ofRequest], ?_⟩
  · by_cases h : ∃ endpoint, r.Reaches endpoint
    · obtain ⟨endpoint, hreach⟩ := h
      rw [ruleSamples_of_reaches hreach]
      exact nodup_samples _ _
    · rw [ruleSamples_of_health fun endpoint hreach => absurd ⟨endpoint, hreach⟩ h]
      exact List.nodup_nil
  · rintro sample hrule _ hrequest rfl
    obtain ⟨endpoint, -, hrule⟩ := mem_ruleSamples_iff.mp hrule
    exact not_isOfRule_of_mem hrequest (isOfRule_of_mem hrule)

theorem mem_handle_iff_of_isOfRule (h : sample.IsOfRule) :
    sample ∈ (s.handle around r).samples ↔
      ∃ endpoint, r.Reaches endpoint ∧ sample ∈ endpoint.samples (s.handle around r).response := by
  rw [samples_handle, List.mem_append, ← mem_ruleSamples_iff]
  exact or_iff_left fun hrequest => not_isOfRule_of_mem hrequest h

theorem mem_handle_iff_of_not_isOfRule (h : ¬ sample.IsOfRule) :
    sample ∈ (s.handle around r).samples ↔
      sample ∈ Sample.ofRequest r.method r.path (s.handle around r).response.status := by
  rw [samples_handle, List.mem_append, mem_ruleSamples_iff]
  exact or_iff_right fun ⟨_, _, hrule⟩ => h (isOfRule_of_mem hrule)

end Exchanges

section Places

variable {r : HttpRequest} {response : HttpResponse} {endpoint : Endpoint} {operation : String}

def Endpoint.path : Endpoint → String
  | .compile => "/api/rules/compile"
  | .combine => "/api/rules/combine"
  | .evaluate => "/api/rules/evaluate"
  | .health => "/health"

theorem ofPath?_eq_some_iff {path : String} :
    Endpoint.ofPath? path = some endpoint ↔ path = endpoint.path := by
  constructor
  · intro h
    unfold Endpoint.ofPath? at h
    split_ifs at h with hcompile hcombine hevaluate hhealth <;> cases h
    · exact hcompile
    · exact hcombine
    · exact hevaluate
    · exact hhealth
  · rintro rfl
    cases endpoint <;> rfl

theorem reaches_iff (h : endpoint.methods = ["POST"]) :
    r.Reaches endpoint ↔ r.method = "POST" ∧ r.path = endpoint.path := by
  rw [HttpRequest.Reaches, ofPath?_eq_some_iff, h, List.contains_iff_mem, List.mem_singleton]
  exact and_comm

theorem exists_reaches_evaluate_iff {p : Prop} :
    (∃ endpoint, r.Reaches endpoint ∧ endpoint = .evaluate ∧ p) ↔
      r.method = "POST" ∧ r.path = "/api/rules/evaluate" ∧ p := by
  constructor
  · rintro ⟨_, hreach, rfl, hp⟩
    obtain ⟨hmethod, hpath⟩ := (reaches_iff rfl).mp hreach
    exact ⟨hmethod, hpath, hp⟩
  · rintro ⟨hmethod, hpath, hp⟩
    exact ⟨.evaluate, (reaches_iff rfl).mpr ⟨hmethod, hpath⟩, rfl, hp⟩

theorem exists_reaches_operation_iff {p : Prop} (h : operation ∈ ["compile", "combine"]) :
    (∃ endpoint, r.Reaches endpoint ∧ endpoint.operation? = some operation ∧ p) ↔
      r.method = "POST" ∧ r.path = "/api/rules/" ++ operation ∧ p := by
  constructor
  · rintro ⟨endpoint, hreach, hop, hp⟩
    cases endpoint <;> cases hop
    · obtain ⟨hmethod, hpath⟩ := (reaches_iff rfl).mp hreach
      exact ⟨hmethod, hpath, hp⟩
    · obtain ⟨hmethod, hpath⟩ := (reaches_iff rfl).mp hreach
      exact ⟨hmethod, hpath, hp⟩
  · rintro ⟨hmethod, hpath, hp⟩
    rcases List.mem_cons.mp h with rfl | h
    · exact ⟨.compile, (reaches_iff rfl).mpr ⟨hmethod, hpath⟩, rfl, hp⟩
    · obtain rfl := List.mem_singleton.mp h
      exact ⟨.combine, (reaches_iff rfl).mpr ⟨hmethod, hpath⟩, rfl, hp⟩

end Places

end Service

end Rulebook
