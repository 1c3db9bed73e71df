import Mathlib
import Rulebook.Proofs.Service.Exits
import Rulebook.Service.Target

/-! # Accounting for traffic

Every request is counted once, with its method, path and status. Whether it is counted for a rule,
too, can be told from where it went and how it was answered. So the figures after any run are
numbers of answers.
-/

namespace Rulebook.Service

section Series

variable {response : HttpResponse} {endpoint : Endpoint} {operation : String}

theorem mem_ofRequest_iff {m p method path : String} {n status : Nat} {kind : MetricKind}
    {name : String} (h : (kind, name) ∈ [(MetricKind.counter, "http_requests_total"),
      (.histogram, "http_request_duration_seconds")]) :
    ⟨kind, name, [("method", method), ("path", path), ("status", toString status)]⟩ ∈
      Sample.ofRequest m p n ↔ m = method ∧ p = path ∧ n = status := by
  rcases List.mem_cons.mp h with h | h
  · cases h
    simp [Sample.ofRequest, Nat.repr_inj, eq_comm]
  · cases List.mem_singleton.mp h
    simp [Sample.ofRequest, Nat.repr_inj, eq_comm]

theorem mem_samples_compilation_iff {status : String} :
    ⟨.counter, "rule_compilations_total", [("operation", operation), ("status", status)]⟩ ∈
      endpoint.samples response ↔
    endpoint.operation? = some operation ∧
      (response.status = 200 ∧ status = "success" ∨
        (response.status = 400 ∧ response.code? ≠ some "VALIDATION_ERROR") ∧ status = "error") := by
  cases endpoint <;>
    simp [Endpoint.samples, Endpoint.operation?, mem_builtSamples_iff, mem_evaluatedSamples_iff,
      Sample.ofCompilation, Sample.ofEvaluation] <;>
    grind

theorem mem_samples_evaluation_iff {status : String} :
    ⟨.counter, "rule_evaluations_total", [("status", status)]⟩ ∈ endpoint.samples response ↔
    endpoint = .evaluate ∧
      (response.status = 200 ∧ status = "success" ∨ response.status = 500 ∧ status = "error") := by
  cases endpoint <;>
    simp [Endpoint.samples, mem_builtSamples_iff, mem_evaluatedSamples_iff,
      Sample.ofCompilation, Sample.ofEvaluation]

theorem mem_samples_duration_iff :
    ⟨.histogram, "rule_evaluation_duration_seconds", []⟩ ∈ endpoint.samples response ↔
    endpoint = .evaluate ∧ (response.status = 200 ∨ response.status = 500) := by
  cases endpoint <;>
    simp [Endpoint.samples, mem_builtSamples_iff, mem_evaluatedSamples_iff,
      Sample.ofCompilation, Sample.ofEvaluation]

end Series

section Targets

theorem toList_of_pathOf? {cs : List Char} {path : String} (h : Target.pathOf? cs = some path) :
    path.toList = cs.takeWhile fun c => c ≠ '?' && c ≠ '#' := by
  unfold Target.pathOf? at h
  dsimp only at h
  split_ifs at h
  obtain rfl := Option.some.inj h
  exact String.toList_ofList

theorem not_mem_of_pathOf? {cs : List Char} {path : String} (h : Target.pathOf? cs = some path) :
    '?' ∉ path.toList := by
  rw [toList_of_pathOf? h]
  intro hm
  have hall := List.all_eq_true.mp List.all_takeWhile _ hm
  simp at hall

theorem not_mem_of_path? {target path : String} (h : Target.path? target = some path) :
    '?' ∉ path.toList := by
  unfold Target.path? at h
  split_ifs at h with _ hstar
  · obtain rfl := Option.some.inj h
    rw [hstar]
    decide
  · split at h
    · exact not_mem_of_pathOf? h
    · split at h
      · split_ifs at h
        obtain rfl := Option.some.inj h
        decide
      · split_ifs at h
        simp only [Option.bind_eq_bind, Option.bind_eq_some_iff] at h
        obtain ⟨behind, -, h⟩ := h
        split_ifs at h
        obtain ⟨path', hpath, h⟩ := Option.bind_eq_some_iff.mp h
        cases h
        split
        · decide
        · exact not_mem_of_pathOf? hpath

end Targets

section Figures

structure Visit where
  around : Surroundings
  target : String
  request : HttpRequest
  aimed : Target.path? target = some request.path

def record (s : Service) (samples : List Sample) (v : Visit) : List Sample :=
  samples ++ (s.handle v.around v.request).samples

def counted (s : Service) (visits : List Visit) : List Sample := visits.foldl s.record []

def tally (s : Service) (visits : List Visit) (p : Visit → HttpResponse → Bool) : Nat :=
  visits.countP fun v => p v (s.handle v.around v.request).response

def Visit.makes (v : Visit) (method path : String) : Bool :=
  v.request.method = method && Target.path? v.target = some path

variable {s : Service} {sample : Sample} {p q : Visit → HttpResponse → Bool}

/-- The sample is counted for those visits that are answered in some way. -/
def CountedIf (s : Service) (sample : Sample) (p : Visit → HttpResponse → Bool) : Prop :=
  ∀ v : Visit, sample ∈ (s.handle v.around v.request).samples ↔
    p v (s.handle v.around v.request).response

theorem CountedIf.record (h : CountedIf s sample p) (samples : List Sample) (v : Visit) :
    (s.record samples v).count sample =
      samples.count sample + if p v (s.handle v.around v.request).response then 1 else 0 := by
  rw [Service.record, List.count_append, (nodup_handle _ _ _).count]
  exact congrArg _ (if_congr (h v) rfl rfl)

theorem CountedIf.foldl (h : CountedIf s sample p) (samples : List Sample)
    (visits : List Visit) :
    (visits.foldl s.record samples).count sample = samples.count sample + s.tally visits p := by
  induction visits generalizing samples with
  | nil => rfl
  | cons v visits ih =>
    rw [List.foldl_cons, ih, h.record, tally, tally, List.countP_cons]
    omega

/-- What is counted for certain visits only is counted as often as there are such visits. -/
theorem CountedIf.counted (h : CountedIf s sample p) (visits : List Visit) :
    (s.counted visits).count sample = s.tally visits p := by
  rw [Service.counted, h.foldl]
  exact Nat.zero_add _

theorem tally_or (h : ∀ v response, p v response → ¬ q v response) (visits : List Visit) :
    s.tally visits (fun v response => p v response || q v response) =
      s.tally visits p + s.tally visits q := by
  induction visits with
  | nil => rfl
  | cons v visits ih =>
    have hone (response : HttpResponse) : (if p v response || q v response then 1 else 0) =
        (if p v response then 1 else 0) + if q v response then 1 else 0 := by
      cases hp : p v response
      · simp
      · simp [h v response hp]
    simp only [tally, List.countP_cons, hone] at ih ⊢
    omega

theorem countedIf_request {kind : MetricKind} {name : String}
    (h : (kind, name) ∈ [(MetricKind.counter, "http_requests_total"),
      (.histogram, "http_request_duration_seconds")]) (method path : String) (status : Nat) :
    CountedIf s ⟨kind, name, [("method", method), ("path", path), ("status", toString status)]⟩
      fun v response => v.makes method path && response.status = status := by
  intro v
  have hmem := (mem_ofRequest_iff (m := method) (p := path) (n := status) h).mpr ⟨rfl, rfl, rfl⟩
  have hnot := not_isOfRule_of_mem hmem
  rw [mem_handle_iff_of_not_isOfRule hnot, mem_ofRequest_iff h]
  simp [Visit.makes, v.aimed, and_assoc]

theorem countedIf_compilation {operation status : String} {answered : HttpResponse → Bool}
    (h : operation ∈ ["compile", "combine"])
    (hp : ∀ response, (response.status = 200 ∧ status = "success" ∨
      (response.status = 400 ∧ response.code? ≠ some "VALIDATION_ERROR") ∧ status = "error") ↔
        answered response) :
    CountedIf s
      ⟨.counter, "rule_compilations_total", [("operation", operation), ("status", status)]⟩
      fun v response => v.makes "POST" ("/api/rules/" ++ operation) && answered response := by
  intro v
  rw [mem_handle_iff_of_isOfRule (isOfRule_of_name (by simp))]
  simp only [mem_samples_compilation_iff, hp, exists_reaches_operation_iff h, Visit.makes, v.aimed]
  simp [and_assoc]

theorem countedIf_evaluation {status : String} {answered : HttpResponse → Bool}
    (hp : ∀ response, (response.status = 200 ∧ status = "success" ∨
      response.status = 500 ∧ status = "error") ↔ answered response) :
    CountedIf s ⟨.counter, "rule_evaluations_total", [("status", status)]⟩
      fun v response => v.makes "POST" "/api/rules/evaluate" && answered response := by
  intro v
  rw [mem_handle_iff_of_isOfRule (isOfRule_of_name (by simp))]
  simp only [mem_samples_evaluation_iff, hp, exists_reaches_evaluate_iff, Visit.makes, v.aimed]
  simp [and_assoc]

theorem countedIf_duration :
    CountedIf s ⟨.histogram, "rule_evaluation_duration_seconds", []⟩
      fun v response => v.makes "POST" "/api/rules/evaluate" && response.status = 200 ||
        v.makes "POST" "/api/rules/evaluate" && response.status = 500 := by
  intro v
  rw [mem_handle_iff_of_isOfRule (isOfRule_of_name (by simp))]
  simp only [mem_samples_duration_iff, exists_reaches_evaluate_iff, Visit.makes, v.aimed]
  simp [and_assoc, and_or_left]

theorem count_record_of_failsWith {code : String} {samples : List Sample} {v : Visit}
    (hcode : code = "VALIDATION_ERROR" ∨ code = "INVALID_AST")
    (hf : (s.handle v.around v.request).response.FailsWith code) (h : sample.IsOfRule) :
    (s.record samples v).count sample = samples.count sample := by
  rw [record, samples_handle, ruleSamples_of_failsWith hcode hf, List.nil_append,
    List.count_append]
  exact congrArg _ (List.count_eq_zero.mpr fun hrequest => not_isOfRule_of_mem hrequest h)

/-- After any run of requests the figures tell how the requests were answered. -/
theorem metrics_account_for_traffic (s : Service) (visits : List Visit) :
    let samples := s.counted visits
    (∀ (method path : String) (status : Nat),
      let labels := [("method", method), ("path", path), ("status", toString status)]
      let answered := s.tally visits fun v response =>
        v.makes method path && response.status = status
      samples.count ⟨.counter, "http_requests_total", labels⟩ = answered ∧
        samples.count ⟨.histogram, "http_request_duration_seconds", labels⟩ = answered) ∧
    (∀ v ∈ visits, '?' ∉ v.request.path.toList) ∧
    (∀ operation ∈ ["compile", "combine"],
      let figure (status : String) := samples.count
        ⟨.counter, "rule_compilations_total", [("operation", operation), ("status", status)]⟩
      figure "success" = s.tally visits (fun v response =>
        v.makes "POST" ("/api/rules/" ++ operation) && response.status = 200) ∧
      figure "error" = s.tally visits (fun v response =>
        v.makes "POST" ("/api/rules/" ++ operation) &&
          (response.status = 400 ∧ response.code? ≠ some "VALIDATION_ERROR"))) ∧
    (let figure (status : String) :=
        samples.count ⟨.counter, "rule_evaluations_total", [("status", status)]⟩
      let answered (status : Nat) := s.tally visits fun v response =>
        v.makes "POST" "/api/rules/evaluate" && response.status = status
      figure "success" = answered 200 ∧ figure "error" = answered 500 ∧
        samples.count ⟨.histogram, "rule_evaluation_duration_seconds", []⟩ =
          answered 200 + answered 500) ∧
    (∀ (v : Visit) (code : String), code = "VALIDATION_ERROR" ∨ code = "INVALID_AST" →
      (s.handle v.around v.request).response.FailsWith code →
      ∀ sample : Sample, sample.IsOfRule →
        (s.record samples v).count sample = samples.count sample) := by
  intro samples
  refine ⟨?requests, fun v _ => not_mem_of_path? v.aimed, ?compilations, ?evaluations, ?refusals⟩
  case requests =>
    intro method path status
    exact ⟨(countedIf_request (by simp) method path status).counted visits,
      (countedIf_request (by simp) method path status).counted visits⟩
  case compilations =>
    intro operation h
    constructor
    · exact (countedIf_compilation h (by simp)).counted visits
    · exact (countedIf_compilation h (by simp)).counted visits
  case evaluations =>
    refine ⟨(countedIf_evaluation (by simp)).counted visits,
      (countedIf_evaluation (by simp)).counted visits, ?_⟩
    exact (countedIf_duration.counted visits).trans (tally_or (by simp; omega) visits)
  case refusals =>
    intro v code hcode hf sample h
    exact count_record_of_failsWith hcode hf h

theorem metrics_account_for_traffic_mixed :
    let s := ofSettings {}
    let around : Surroundings := ⟨"fresh", 7⟩
    let granted : Visit := ⟨around, "/api/rules/compile", postRule "a AND b", rfl⟩
    let refused : Visit := ⟨around, "/api/rules/compile",
      { postRule "a AND b" with contentType := some "text/plain" }, rfl⟩
    let lost : Visit := ⟨around, "/rules?page=2", ⟨"GET", "/rules", none, none, []⟩, rfl⟩
    let samples := s.counted [granted, refused, lost]
    (s.handle around refused.request).response.FailsWith "VALIDATION_ERROR" ∧
      (∀ sample : Sample, sample.IsOfRule →
        (s.record samples refused).count sample = samples.count sample) ∧
      samples.count ⟨.counter, "http_requests_total",
        [("method", "GET"), ("path", "/rules"), ("status", "404")]⟩ = 1 ∧
      samples.count ⟨.counter, "rule_compilations_total",
        [("operation", "compile"), ("status", "success")]⟩ = 1 ∧
      samples.count ⟨.counter, "rule_compilations_total",
        [("operation", "compile"), ("status", "error")]⟩ = 0 := by
  intro s around granted refused lost samples
  have hgranted : (s.handle granted.around granted.request).response.status = 200 := by
    have hposted : (Task.rule "a AND b").PostedBy granted.request :=
      postedBy_postRule (by decide +kernel) (by decide +kernel)
    exact (congrArg Reply.status (route_rule hposted)).trans rfl
  have hrefused : (s.handle refused.around refused.request).response.status = 400 ∧
      (s.handle refused.around refused.request).response.code? = some "VALIDATION_ERROR" :=
    ⟨rfl, code?_fault _ _ _⟩
  have hlost : (s.handle lost.around lost.request).response.status = 404 := rfl
  obtain ⟨hrequests, -, hcompilations, -, hrefusals⟩ :=
    metrics_account_for_traffic s [granted, refused, lost]
  have hfails : (s.handle refused.around refused.request).response.FailsWith "VALIDATION_ERROR" :=
    ⟨by rw [hrefused.1]; decide, hrefused.2⟩
  have hcompile : granted.makes "POST" "/api/rules/compile" = true ∧
      refused.makes "POST" "/api/rules/compile" = true ∧
      lost.makes "POST" "/api/rules/compile" = false := by decide +kernel
  refine ⟨hfails, hrefusals refused _ (.inl rfl) hfails, ?_, ?_, ?_⟩
  · refine (hrequests "GET" "/rules" 404).1.trans ?_
    have hmakes : granted.makes "GET" "/rules" = false ∧ refused.makes "GET" "/rules" = false ∧
        lost.makes "GET" "/rules" = true := by decide +kernel
    simp [tally, hmakes, hlost]
  · refine (hcompilations "compile" (by simp)).1.trans ?_
    simp [tally, hcompile, hgranted, hrefused.1]
  · refine (hcompilations "compile" (by simp)).2.trans ?_
    simp [tally, hcompile, hgranted, hrefused.2]

end Figures

end Rulebook.Service
