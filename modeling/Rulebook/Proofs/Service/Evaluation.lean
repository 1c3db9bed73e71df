import Rulebook.Proofs.Ingestion
import Rulebook.Proofs.Service.Compilation
import Rulebook.Proofs.Tracing

/-! # Evaluating what was compiled

A rule that the service compiles is answered with its tree. What the service writes into an answer
it accepts in a request: sent back with data that can be read, the tree comes to what it comes to
without a service in between. Data that cannot be read, or that is no object, is refused.
-/

namespace Rulebook

open Json (Document)
open Json.Document (nesting membersNesting toJsonWith_of_nesting string?_symbols fields? field?
  scan scan_of_runWithin isEnd embeddedKey keys everyObject_object everyObject_bool
  everyObject_number everyObject_text Spells spells_text spells_bool spells_object)

theorem Expression.nesting_document (e : Expression) : e.document.nesting = e.depth := by
  induction e with
  | operand text => rfl
  | binary op left right ihl ihr =>
    rw [document, nesting]
    simp only [membersNesting, ihl, ihr, nesting, depth]
    omega

/-- The document is read as the value, and there is room for a container around it. -/
def Json.Document.Conveys (document : Document) (json : Json) : Prop :=
  document.toJson? Json.maxNesting = some json ∧ document.nesting < Json.maxNesting

theorem Json.Document.Conveys.toJson? {document : Document} {json : Json}
    (h : document.Conveys json) : document.toJson? Service.fieldNesting = some json := by
  obtain ⟨hj, hn⟩ := h
  have hle : document.nesting ≤ Service.fieldNesting := Nat.le_of_lt_succ hn
  rw [Json.Document.toJson?, toJsonWith_of_nesting hle hn.le]
  exact hj

theorem Expression.conveys_document {e : Expression} (h : e.depth ≤ depthLimit) :
    e.document.Conveys e.toJson.sorted := by
  have hlt : e.depth < Json.maxNesting := Nat.lt_of_le_of_lt h (by decide)
  refine ⟨?_, by rw [nesting_document]; exact hlt⟩
  rw [Json.Document.toJson?, toJsonWith_document, if_pos hlt.le]
  rfl

namespace Service

section Posting

variable {path : String} {json : Json} {document : Document} {r : HttpRequest}

def isAscii (cs : List Char) : Bool := cs.all fun c => c.toNat < 0x80

theorem character?_ascii {c : Char} (h : c.toNat < 0x80) (rest : List UInt8) :
    Text.character? (UInt8.ofNat c.toNat) rest = some (c, 0) := by
  have hn : (UInt8.ofNat c.toNat).toNat = c.toNat := by
    rw [UInt8.toNat_ofNat']
    omega
  have hlt : UInt8.ofNat c.toNat < 0x80 := by
    rw [UInt8.lt_iff_toNat_lt, hn]
    exact h
  rw [Text.character?.eq_def, if_pos hlt, hn, Char.ofNat_toNat]
  rfl

theorem decode_ascii {cs : List Char} (h : isAscii cs) (done : List (Option Char)) :
    Text.decode 0 done (cs.map fun c => UInt8.ofNat c.toNat) = done.reverse ++ cs.map some := by
  induction cs generalizing done with
  | nil => simp [Text.decode]
  | cons c cs ih =>
    rw [isAscii, List.all_cons, Bool.and_eq_true, decide_eq_true_iff] at h
    rw [List.map_cons, Text.decode, if_neg (Nat.lt_irrefl 0), character?_ascii h.1]
    dsimp only
    rw [ih h.2]
    simp

def post (path : String) (json : Json) : HttpRequest :=
  ⟨"POST", path, some "application/json", none,
    (json.write []).map fun c => UInt8.ofNat c.toNat⟩

def submit (path : String) (cs : List Char) : HttpRequest :=
  ⟨"POST", path, some "application/json", none, cs.map fun c => UInt8.ofNat c.toNat⟩

theorem ofBytes_submit {cs : List Char} (ha : isAscii cs) :
    Text.ofBytes (submit path cs).body = cs.map some := by
  rw [submit, Text.ofBytes, decode_ascii ha]
  rfl

theorem scan_post (h : Spells json document) (ha : isAscii (json.write [])) :
    scan (Text.ofBytes (post path json).body) = .ok (document, []) := by
  change scan (Text.ofBytes (submit path (json.write [])).body) = _
  rw [ofBytes_submit ha]
  exact h [] false [] (.complete document) rfl

theorem readBody_post {α : Type} {reader : Document → Option α} {body : α}
    (h : Spells json document) (ha : isAscii (json.write []))
    (hsize : (post path json).body.length ≤ maxBody) (hread : reader document = some body) :
    readBody reader (post path json) = .ok body := by
  have hcontent : ((post path json).contentType.map MediaType.isJson).getD false = true := by
    rfl
  rw [readBody, hcontent, if_neg (by decide), if_neg (Nat.not_lt_of_le hsize),
    Json.Document.read?, scan_post h ha]
  simp [Except.toOption, hread, isEnd, Json.skipSpace, pure, Except.pure]

theorem exists_text_of_readBody {α : Type} {reader : Json.Document → Option α}
    {fault : ServiceFault} (h : readBody reader r = .error fault) :
    ∃ text, fault = .validation text := by
  unfold readBody at h
  split at h
  · exact ⟨_, (Except.error.inj h).symm⟩
  · split at h
    · exact ⟨_, (Except.error.inj h).symm⟩
    · split at h
      · cases h
      · exact ⟨_, (Except.error.inj h).symm⟩

def postRule (text : String) : HttpRequest :=
  post "/api/rules/compile" (.object [("ruleString", .text text)])

theorem postedBy_postRule {text : String}
    (ha : isAscii (Json.write (.object [("ruleString", .text text)]) []))
    (hsize : (postRule text).body.length ≤ maxBody) :
    (Task.rule text).PostedBy (postRule text) := by
  have hspells : Spells (.object [("ruleString", .text text)])
      (.object [(Json.symbols "ruleString", .text (Json.symbols text))]) :=
    spells_object (.cons ⟨rfl, spells_text _⟩ .nil)
  refine ⟨rfl, rfl, readBody_post hspells ha hsize ?_⟩
  simp [CompileRequest.ofDocument?, fields?, string?_symbols, field?, Json.Document.text?]

end Posting

section Evaluating

/-- The request posts an expression, data and a flag, if any, in a body of admitted length. -/
structure PostsEvaluation (r : HttpRequest) (ast userData : Document) (flag : Option Bool) :
    Prop where
  method : r.method = "POST"
  path : r.path = "/api/rules/evaluate"
  contentType : r.contentType.any MediaType.isJson
  size : r.body.length ≤ maxBody
  body : ∃ document rest trace, scan (Text.ofBytes r.body) = .ok (document, rest) ∧ isEnd rest ∧
    document.fields? ["ast", "userData", "trace"] = some [some ast, some userData, trace] ∧
    trace.elim (some none) Json.Document.flag? = some flag

/-- The response tells the value, with a line for each node if a trace is asked for, or the
fault. -/
def Answers (response : HttpResponse) (e : Expression) (record : Record) (tracing : Bool)
    (micros : Nat) : Prop :=
  match e.evaluate record with
  | .ok v => response.status = 200 ∧ ∃ lines : List String,
      (tracing → List.Forall₂ (e.Shows record "root") lines e.ways ∧ lines.length = e.nodeCount) ∧
      response.body = (envelope "规则评估完成" (.object (("result", v.toJson) ::
        (if tracing then [("trace", .array (lines.map .text))] else []) ++
          [("evaluationTimeUs", .integer micros)]))).print
  | .error fault => response.status = 500 ∧
      response.body = (Json.object [("code", .text "EVALUATION_FAILED"), ("data", .null),
        ("message", .text ("规则评估失败: " ++ fault.message)), ("success", .bool false)]).print

variable {s : Service} {around : Surroundings} {r : HttpRequest} {ast userData : Document}
  {flag : Option Bool} {e : Expression} {record : Record}

structure PostsAst (r : HttpRequest) (ast : Json) (members : List (String × Json))
    (flag : Option Bool) : Prop where
  method : r.method = "POST"
  path : r.path = "/api/rules/evaluate"
  body : readBody EvaluateRequest.ofDocument? r = .ok ⟨ast, .object members, flag⟩

/-- An expression that is not too deep is run; any other one is refused. -/
theorem route_ast {json : Json} {members : List (String × Json)}
    (h : PostsAst r json members flag) (hd : json.Denotes e) :
    s.route around r =
      if e.depth ≤ Expression.depthLimit then
        (run around.micros (flag.getD s.tracing) ⟨members⟩ e).reply
      else Effect.reply
        { result := .error (.invalidAst (.treeTooDeep Expression.depthLimit))
          activities :=
            [Log.refused "Rejected invalid AST" (.treeTooDeep Expression.depthLimit)] } := by
  have hvalid : EvaluateRequest.violations ⟨json, .object members, flag⟩ = [] := by
    rw [EvaluateRequest.violations, hd.not_null]
    rfl
  rw [route_eq h.method (congrArg Endpoint.ofPath? h.path) rfl, dispatch, perform_eq h.body,
    evaluate, hvalid, if_neg (by decide)]
  dsimp only
  rw [Expression.ofJson_of_denotes hd]
  by_cases hdepth : e.depth ≤ Expression.depthLimit
  · rw [if_pos hdepth, if_pos hdepth]
    rfl
  · rw [if_neg hdepth, if_neg hdepth]

theorem readBody_eq_ok_iff (h : PostsEvaluation r ast userData flag) {body : EvaluateRequest} :
    readBody EvaluateRequest.ofDocument? r = .ok body ↔
      ast.toJson? fieldNesting = some body.ast ∧
        userData.toJson? fieldNesting = some body.userData ∧ flag = body.trace := by
  obtain ⟨document, rest, trace, hscan, hend, hfields, hflag⟩ := h.body
  have hread : EvaluateRequest.ofDocument? document = (do
      return ⟨← ast.toJson? fieldNesting, ← userData.toJson? fieldNesting, flag⟩) := by
    rw [EvaluateRequest.ofDocument?, hfields]
    cases trace with
    | none =>
      cases hflag
      rfl
    | some trace =>
      have hflag : trace.flag? = some flag := hflag
      simp [hflag]
  have hcontent : (r.contentType.map MediaType.isJson).getD false = true := by
    have hc := h.contentType
    cases hr : r.contentType with
    | none =>
      rw [hr] at hc
      cases hc
    | some contentType =>
      rw [hr] at hc
      exact hc
  rw [readBody, hcontent, if_neg (by decide), if_neg (Nat.not_lt_of_le h.size),
    Json.Document.read?, hscan]
  obtain ⟨bodyAst, bodyData, bodyTrace⟩ := body
  cases hast : ast.toJson? fieldNesting <;> cases hdata : userData.toJson? fieldNesting <;>
    simp [Except.toOption, hread, hast, hdata, hend, pure, Except.pure, throw, throwThe,
      MonadExceptOf.throw]

theorem answers_run (response : HttpResponse) (tracing : Bool) (micros : Nat)
    (hs : response.status = (run micros tracing record e).reply.status)
    (hb : response.body = (run micros tracing record e).reply.body) :
    Answers response e record tracing micros := by
  rw [Answers]
  cases hv : e.evaluate record with
  | error fault =>
    rw [run, e.execute_of_fault hv] at hs hb
    exact ⟨hs, hb⟩
  | ok v =>
    obtain ⟨lines, hw⟩ := e.exists_walk_of_evaluate hv (if tracing then some "root" else none)
    rw [run, Expression.execute_of_walk hw] at hs hb
    refine ⟨hs, lines.reverse, ?_, hb⟩
    rintro rfl
    obtain ⟨added, rfl, hshows⟩ := Expression.exists_lines_of_walk hw
    rw [List.append_nil, List.reverse_reverse]
    exact ⟨hshows, hshows.length_eq.trans (Expression.length_ways e)⟩

theorem answers_of_postsAst {json : Json} {members : List (String × Json)}
    (h : PostsAst r json members flag) (hd : json.Denotes e)
    (hdepth : e.depth ≤ Expression.depthLimit) :
    Answers (s.handle around r).response e ⟨members⟩ (flag.getD s.tracing) around.micros := by
  have hroute : s.route around r = _ := route_ast h hd
  rw [if_pos hdepth] at hroute
  refine answers_run _ _ _ ?_ ?_
  · exact congrArg Reply.status hroute
  · exact congrArg Reply.body hroute

theorem answers_of_posts {members : List (String × Json)} (h : PostsEvaluation r ast userData flag)
    (hdepth : e.depth ≤ Expression.depthLimit) (hast : ast.Conveys e.toJson.sorted)
    (hdata : userData.Conveys (.object members)) :
    Answers (s.handle around r).response e ⟨members⟩ (flag.getD s.tracing) around.micros :=
  answers_of_postsAst
    ⟨h.method, h.path, (readBody_eq_ok_iff h).mpr ⟨hast.toJson?, hdata.toJson?, rfl⟩⟩
    (Json.denotes_of_carries (Json.carries_sorted e)) hdepth

theorem exists_conveys_object {data : List (List Json.Symbol × Document)}
    (hr : (Document.object data).Readable) (hu : (Document.object data).Unmarked)
    (hn : (Document.object data).nesting < Json.maxNesting) :
    ∃ members, (Document.object data).Conveys (.object members) := by
  obtain ⟨json, hj⟩ := Option.isSome_iff_exists.mp (hr.isSome_toJson? hu hn.le)
  have hobject := hj
  rw [Json.maxNesting, Json.Document.toJson?_object hu.embedded?, Option.map_eq_some_iff] at hobject
  obtain ⟨members, -, rfl⟩ := hobject
  exact ⟨_, hj, hn⟩

/-- A tree that the service answers with is evaluated as the rule is, on any data it can read. -/
theorem evaluates_what_it_compiled {settings : EngineSettings} {task : Task} {r : HttpRequest}
    {around : Surroundings} (hp : task.PostedBy r)
    (hok : ((ofSettings settings).handle around r).response.status = 200) :
    ∃ rule ast json, task.compile {} = .ok rule ∧
      Offers ((ofSettings settings).handle around r).response ast ∧ ast.Conveys json ∧
      ∀ (around : Surroundings) (r : HttpRequest) (copy : Document)
        (data : List (List Json.Symbol × Document)) (flag : Option Bool),
        PostsEvaluation r copy (.object data) flag → copy.Conveys json →
        (Document.object data).Readable → (Document.object data).Unmarked →
        (Document.object data).nesting ≤ 126 →
        ∃ members, (Document.object data).Conveys (.object members) ∧
          Answers ((ofSettings settings).handle around r).response rule.root ⟨members⟩
            (flag.getD settings.tracing) around.micros := by
  obtain ⟨rule, message, hc, hbody⟩ := exists_rule_of_status hp hok
  obtain ⟨hfree, hdepth⟩ := compile_unlimited hc
  refine ⟨rule, rule.root.document, rule.root.toJson.sorted, hfree, offers_of_body hbody,
    Expression.conveys_document hdepth, ?_⟩
  intro around r copy data flag hposts hcopy hread hunmarked hnesting
  obtain ⟨members, hdata⟩ := exists_conveys_object hread hunmarked (Nat.lt_succ_of_le hnesting)
  exact ⟨members, hdata, answers_of_posts hposts hdepth hcopy hdata⟩

theorem evaluates_what_it_compiled_members :
    let s := ofSettings { tracing := true }
    let e := Expression.binary (.connective .and) (.operand "active") (.operand "member")
    let members := [("active", Json.bool true), ("member", .bool false)]
    let data : Document :=
      .object [(Json.symbols "active", .bool true), (Json.symbols "member", .bool false)]
    let around : Surroundings := ⟨"fresh", 7⟩
    let first := post "/api/rules/compile" (.object [("ruleString", .text "active AND member")])
    let second := post "/api/rules/evaluate"
      (.object [("ast", e.toJson), ("userData", .object members)])
    (Task.rule "active AND member").PostedBy first ∧
      (s.handle around first).response.status = 200 ∧
      PostsEvaluation second e.document data none ∧ data.Readable ∧ data.Unmarked ∧
      data.nesting ≤ 126 ∧ data.Conveys (.object members) ∧
      e.evaluate ⟨members⟩ = .ok (.bool false) ∧
      Answers (s.handle around second).response e ⟨members⟩ true 7 := by
  intro s e members data around first second
  have hfirst : (Task.rule "active AND member").PostedBy first :=
    postedBy_postRule (by decide +kernel) (by decide +kernel)
  have hok : (s.handle around first).response.status = 200 :=
    (congrArg Reply.status (route_rule hfirst)).trans rfl
  have hsecond : PostsEvaluation second e.document data none := by
    have hdata : Spells (.object members) data :=
      spells_object (.cons ⟨rfl, spells_bool _⟩ (.cons ⟨rfl, spells_bool _⟩ .nil))
    have hspells : Spells (.object [("ast", e.toJson), ("userData", .object members)])
        (.object [(Json.symbols "ast", e.document), (Json.symbols "userData", data)]) :=
      spells_object (.cons ⟨rfl, e.spells_toJson⟩ (.cons ⟨rfl, hdata⟩ .nil))
    refine ⟨rfl, rfl, rfl, by decide +kernel, ?_⟩
    exact ⟨_, [], none, scan_post hspells (by decide +kernel), rfl, rfl, rfl⟩
  have hread : data.Readable := by
    refine .object ?_ ?_
    · decide
    · simp only [List.forall_mem_cons]
      exact ⟨.bool _, .bool _, List.forall_mem_nil _⟩
  have hunmarked : data.Unmarked := by
    refine everyObject_object.mpr ⟨?_, ?_⟩
    · simp [keys, string?_symbols, embeddedKey]
    · simp only [List.forall_mem_cons]
      exact ⟨everyObject_bool _, everyObject_bool _, List.forall_mem_nil _⟩
  have hnesting : data.nesting ≤ 126 := by decide
  have hconveys : data.Conveys (.object members) := ⟨rfl, by decide⟩
  obtain ⟨rule, ast, json, hc, hoffers, hast, h⟩ := evaluates_what_it_compiled hfirst hok
  obtain ⟨rule', message, hc', hbody⟩ := exists_rule_of_status hfirst hok
  obtain rfl : rule' = ⟨"active AND member", e⟩ := Except.ok.inj (hc'.symm.trans rfl)
  obtain rfl : rule = ⟨"active AND member", e⟩ := Except.ok.inj (hc.symm.trans rfl)
  obtain rfl := hoffers.unique (offers_of_body hbody)
  obtain ⟨members', hconveys', hanswers⟩ :=
    h around second _ _ _ hsecond hast hread hunmarked hnesting
  obtain rfl : members' = members :=
    Json.object.inj (Option.some.inj (hconveys'.1.symm.trans hconveys.1))
  exact ⟨hfirst, hok, hsecond, hread, hunmarked, hnesting, hconveys, rfl, hanswers⟩

end Evaluating

section Refusing

variable {s : Service} {around : Surroundings} {r : HttpRequest} {ast userData : Document}
  {flag : Option Bool}

theorem violations_ne_nil_of_not_object {body : EvaluateRequest}
    (h : ∀ members, body.userData ≠ .object members) : body.violations ≠ [] := by
  rw [EvaluateRequest.violations]
  cases hd : body.userData with
  | object members => exact absurd hd (h members)
  | _ => exact List.append_ne_nil_of_right_ne_nil _ (List.cons_ne_nil _ _)

/-- No evaluation takes place on what is not read as an object. -/
theorem status_of_not_object (h : PostsEvaluation r ast userData flag)
    (hd : ∀ members, userData.toJson? fieldNesting ≠ some (.object members)) :
    (s.handle around r).response.status = 400 := by
  change (s.route around r).status = 400
  rw [route_eq h.method (congrArg Endpoint.ofPath? h.path) rfl, dispatch, perform]
  cases hb : readBody EvaluateRequest.ofDocument? r with
  | error fault =>
    obtain ⟨text, rfl⟩ := exists_text_of_readBody hb
    rfl
  | ok body =>
    have hbody : ∀ members, body.userData ≠ .object members := fun members hm =>
      hd members (hm ▸ ((readBody_eq_ok_iff h).mp hb).2.1)
    have hinvalid : !body.violations.isEmpty := by
      simpa using violations_ne_nil_of_not_object hbody
    dsimp only
    rw [evaluate, if_pos hinvalid]
    rfl

/-- Data with a number beyond the range or a string with a gap is refused. -/
theorem status_of_not_readable (h : PostsEvaluation r ast userData flag)
    (hu : userData.Unmarked) (hd : ¬ userData.Readable) :
    (s.handle around r).response.status = 400 :=
  status_of_not_object h fun _ hj =>
    hd (Json.Document.readable_of_isSome_toJson? hu (Option.isSome_of_eq_some hj))

def oneOn (data : String) : List Char :=
  "\x7b\"ast\":".toList ++ (Expression.operand "1").toJson.print.toList ++
    ",\"userData\":".toList ++ data.toList ++ "\x7d".toList

def submitOne (data : String) : HttpRequest := submit "/api/rules/evaluate" (oneOn data)

theorem postsEvaluation_submitOne {text : String} {data : List (List Json.Symbol × Document)}
    (ha : isAscii (oneOn text)) (hsize : (oneOn text).length ≤ maxBody)
    (hscan : scan ((oneOn text).map some) = .ok (.object
      [(Json.symbols "ast", (Expression.operand "1").document),
        (Json.symbols "userData", .object data)], [])) :
    PostsEvaluation (submitOne text) (Expression.operand "1").document (.object data) none where
  method := rfl
  path := rfl
  contentType := rfl
  size := (List.length_map _).trans_le hsize
  body := by
    refine ⟨_, [], none, (congrArg scan (ofBytes_submit ha)).trans hscan, rfl, ?_, rfl⟩
    simp [fields?, string?_symbols, field?]

theorem unmarked_singleton {value : Document} (h : value.Unmarked) :
    (Document.object [(Json.symbols "a", value)]).Unmarked := by
  refine everyObject_object.mpr ⟨?_, List.forall_mem_singleton.mpr h⟩
  simp [keys, string?_symbols, embeddedKey]

/-- The text of an object and the object. This one stands for the number that it embeds. -/
def embeddedData : String × List (List Json.Symbol × Document) :=
  ("\x7b\"$serde_json::private::RawValue\":\"5\"\x7d",
    [(Json.symbols embeddedKey, .text (Json.symbols "5"))])

def overflowingData : String × List (List Json.Symbol × Document) :=
  ("\x7b\"a\":1e400\x7d",
    [(Json.symbols "a", .number ⟨false, ['1'], [], some (false, ['4', '0', '0'])⟩)])

def gappedData : String × List (List Json.Symbol × Document) :=
  ("\x7b\"a\":\"\\ud800\"\x7d", [(Json.symbols "a", .text [none])])

set_option maxRecDepth 2000 in
theorem posts_embeddedData : PostsEvaluation (submitOne embeddedData.1)
    (Expression.operand "1").document (.object embeddedData.2) none :=
  postsEvaluation_submitOne (by decide +kernel) (by decide +kernel) (scan_of_runWithin rfl)

theorem posts_overflowingData : PostsEvaluation (submitOne overflowingData.1)
    (Expression.operand "1").document (.object overflowingData.2) none :=
  postsEvaluation_submitOne (by decide +kernel) (by decide +kernel) (scan_of_runWithin rfl)

theorem posts_gappedData : PostsEvaluation (submitOne gappedData.1)
    (Expression.operand "1").document (.object gappedData.2) none :=
  postsEvaluation_submitOne (by decide +kernel) (by decide +kernel) (scan_of_runWithin rfl)

theorem parse_five : Json.parse "5" = .ok (.number (.integer 5)) := by
  have hscan : scan (Json.symbols "5") = .ok (.number ⟨false, ['5'], [], none⟩, []) :=
    scan_of_runWithin rfl
  rw [Json.parse_of_scan hscan rfl (everyObject_number _), Json.maxNesting]
  rfl

/-- An object of little depth is refused if it embeds a text or holds what cannot be read. -/
theorem refuses_unreadable_data :
    let s := ofSettings {}
    let around : Surroundings := ⟨"fresh", 7⟩
    let first := s.handle around (postRule "1")
    (Task.rule "1").PostedBy (postRule "1") ∧ first.response.status = 200 ∧
      Offers first.response (Expression.operand "1").document ∧
      ∀ data ∈ [embeddedData, overflowingData, gappedData],
        PostsEvaluation (submitOne data.1) (Expression.operand "1").document (.object data.2) none ∧
          (Document.object data.2).nesting ≤ 126 ∧
          (s.handle around (submitOne data.1)).response.status = 400 := by
  intro s around first
  have hposted : (Task.rule "1").PostedBy (postRule "1") :=
    postedBy_postRule (by decide +kernel) (by decide +kernel)
  have hok : first.response.status = 200 :=
    (congrArg Reply.status (route_rule hposted)).trans rfl
  obtain ⟨rule, message, hc, hbody⟩ := exists_rule_of_status hposted hok
  obtain rfl : rule = ⟨"1", .operand "1"⟩ := Except.ok.inj (hc.symm.trans rfl)
  refine ⟨hposted, hok, offers_of_body hbody, ?_⟩
  simp only [List.forall_mem_cons]
  refine ⟨?_, ?_, ?_, List.forall_mem_nil _⟩
  · refine ⟨posts_embeddedData, by decide, ?_⟩
    refine status_of_not_object posts_embeddedData fun members hm => ?_
    rw [Json.Document.toJson?, embeddedData, fieldNesting, Json.maxNesting,
      Expression.toJsonWith_embedded, parse_five] at hm
    cases hm
  · refine ⟨posts_overflowingData, by decide, ?_⟩
    have hunmarked : (Document.object overflowingData.2).Unmarked :=
      unmarked_singleton (everyObject_number _)
    refine status_of_not_readable posts_overflowingData hunmarked ?_
    rintro (_ | _ | _ | _ | _ | ⟨-, h⟩)
    cases h _ List.mem_cons_self with
    | number hv => exact absurd hv (by decide +kernel)
  · refine ⟨posts_gappedData, by decide, ?_⟩
    have hunmarked : (Document.object gappedData.2).Unmarked :=
      unmarked_singleton (everyObject_text _)
    refine status_of_not_readable posts_gappedData hunmarked ?_
    rintro (_ | _ | _ | _ | _ | ⟨-, h⟩)
    cases h _ List.mem_cons_self with
    | text hc => exact hc (List.mem_singleton_self _)

end Refusing

end Service

end Rulebook
