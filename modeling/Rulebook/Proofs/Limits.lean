import Rulebook.Proofs.CombinedText

/-! # Limits

A limit does nothing but refuse. What is made of rules within narrow limits is made of them within
wider ones, too; and where only the wider limits admit the rules, the fault names the narrow limit
that was in the way.
-/

namespace Rulebook

/-- A limit that is wider than another one, or the same; none at all is the widest. -/
def Widens (narrow wide : Option Nat) : Prop :=
  ∀ max, wide = some max → ∃ least, narrow = some least ∧ least ≤ max

namespace Compiler

open List (Forall₂)

/-- No limit of the first compiler is wider than that of the second. -/
structure Narrower (c d : Compiler) : Prop where
  ruleLength : Widens c.ruleLength d.ruleLength
  ruleCount : Widens c.ruleCount d.ruleCount
  depth : c.depth ≤ d.depth

inductive Refuses (c : Compiler) (rule : String) : Fault → Prop
  | length {max : Nat} : c.ruleLength = some max → max < rule.utf8ByteSize →
      Refuses c rule (.ruleTooLong rule.utf8ByteSize max)
  | depth : Refuses c rule (.treeTooDeep c.depth)

inductive RefusesList (c : Compiler) (rules : List String) : Fault → Prop
  | count {max : Nat} : c.ruleCount = some max → max < rules.length →
      RefusesList c rules (.tooManyRules rules.length max)
  | rule {rule : String} {fault : Fault} : rule ∈ rules → c.Refuses rule fault →
      RefusesList c rules fault

variable {c d : Compiler} {op : Connective} {rule : String} {rules : List String}
  {tree e : Expression} {r : Rule} {fault : Fault}

section Checks

def within (limit : Option Nat) (n : Nat) (refusal : Nat → Fault) : Except Fault Unit :=
  match limit with
  | some max => if max < n then throw (refusal max) else return ()
  | none => return ()

variable {limit narrow wide : Option Nat} {n : Nat} {refusal : Nat → Fault}

theorem within_eq_ok_iff : within limit n refusal = .ok () ↔ ∀ max, limit = some max → n ≤ max := by
  cases limit with
  | none => simp [within, pure, Except.pure]
  | some max =>
    by_cases h : max < n
    · simp [within, h]
    · simp [within, h, pure, Except.pure, Nat.le_of_not_lt h]

theorem exists_lt_of_within (h : within limit n refusal = .error fault) :
    ∃ max, limit = some max ∧ max < n ∧ fault = refusal max := by
  cases limit with
  | none => cases h
  | some max =>
    rw [within] at h
    split at h
    · next hlt =>
      cases h
      exact ⟨max, rfl, hlt, rfl⟩
    · cases h

theorem within_of_widens (h : Widens narrow wide) (hn : within narrow n refusal = .ok ()) :
    within wide n refusal = .ok () := by
  rw [within_eq_ok_iff] at hn ⊢
  intro max hmax
  obtain ⟨least, hleast, hle⟩ := h max hmax
  exact (hn least hleast).trans hle

theorem checkLength_eq (c : Compiler) (rule : String) :
    c.checkLength rule =
      within c.ruleLength rule.utf8ByteSize (.ruleTooLong rule.utf8ByteSize) := rfl

theorem checkCount_eq (c : Compiler) (rules : List String) :
    c.checkCount rules = within c.ruleCount rules.length (.tooManyRules rules.length) := rfl

theorem Narrower.checkLength (h : c.Narrower d) (hc : c.checkLength rule = .ok ()) :
    d.checkLength rule = .ok () := by
  rw [checkLength_eq] at hc ⊢
  exact within_of_widens h.ruleLength hc

theorem Narrower.checkCount (h : c.Narrower d) (hc : c.checkCount rules = .ok ()) :
    d.checkCount rules = .ok () := by
  rw [checkCount_eq] at hc ⊢
  exact within_of_widens h.ruleCount hc

theorem refuses_of_checkLength (h : c.checkLength rule = .error fault) : c.Refuses rule fault := by
  rw [checkLength_eq] at h
  obtain ⟨max, hmax, hlt, rfl⟩ := exists_lt_of_within h
  exact .length hmax hlt

theorem refusesList_of_checkCount (h : c.checkCount rules = .error fault) :
    c.RefusesList rules fault := by
  rw [checkCount_eq] at h
  obtain ⟨max, hmax, hlt, rfl⟩ := exists_lt_of_within h
  exact .count hmax hlt

theorem Narrower.max_depth_le (h : c.Narrower d) : max 1 c.depth ≤ max 1 d.depth := by
  have := h.depth
  omega

end Checks

section Rules

theorem Narrower.parse (h : c.Narrower d) (hc : c.parse rule = .ok e) : d.parse rule = .ok e := by
  obtain ⟨hlength, harranges⟩ := reads_of_parse hc
  rw [Reads.parse ⟨h.checkLength hlength, harranges⟩, if_pos]
  exact (admits_of_parse hc).depth_le.trans h.max_depth_le

/-- A rule that one compiler admits meets no fault in another but its limits. -/
theorem refuses_of_parse (hd : d.parse rule = .ok e) (hc : c.parse rule = .error fault) :
    c.Refuses rule fault := by
  cases hlength : c.checkLength rule with
  | error _ =>
    rw [Compiler.parse, hlength] at hc
    cases hc
    exact refuses_of_checkLength hlength
  | ok _ =>
    rw [Reads.parse ⟨hlength, arranges_of_parse hd⟩] at hc
    split at hc
    · cases hc
    · cases hc
      exact .depth

theorem refuses_of_extend (hd : d.parse rule = .ok e)
    (hc : c.extend op tree rule = .error fault) : c.Refuses rule fault := by
  cases hparse : c.parse rule with
  | error _ =>
    rw [extend, hparse] at hc
    cases hc
    exact refuses_of_parse hd hparse
  | ok next =>
    rw [(reads_of_parse hparse).extend] at hc
    split at hc
    · cases hc
    · cases hc
      exact .depth

theorem exists_refuses_of_foldlM
    (hd : ∀ rule ∈ rules, ∃ e, d.parse rule = .ok e)
    (hc : rules.foldlM (c.extend op) tree = .error fault) :
    ∃ rule ∈ rules, c.Refuses rule fault := by
  induction rules generalizing tree with
  | nil => cases hc
  | cons rule rules ih =>
    rw [List.forall_mem_cons] at hd
    obtain ⟨⟨e, hrule⟩, hrules⟩ := hd
    rw [List.foldlM_cons] at hc
    cases hextend : c.extend op tree rule with
    | error _ =>
      rw [hextend] at hc
      cases hc
      exact ⟨rule, List.mem_cons_self, refuses_of_extend hrule hextend⟩
    | ok extended =>
      rw [hextend] at hc
      obtain ⟨other, hm, href⟩ := ih hrules hc
      exact ⟨other, List.mem_cons_of_mem _ hm, href⟩

theorem exists_refuses_of_join (hne : rules ≠ [])
    (hd : ∀ rule ∈ rules, ∃ e, d.parse rule = .ok e) (hc : c.join op rules = .error fault) :
    ∃ rule ∈ rules, c.Refuses rule fault := by
  cases rules with
  | nil => exact absurd rfl hne
  | cons rule rules =>
    rw [List.forall_mem_cons] at hd
    obtain ⟨⟨e, hrule⟩, hrules⟩ := hd
    rw [join] at hc
    cases hparse : c.parse rule with
    | error _ =>
      rw [hparse] at hc
      cases hc
      exact ⟨rule, List.mem_cons_self, refuses_of_parse hrule hparse⟩
    | ok tree =>
      rw [hparse] at hc
      obtain ⟨other, hm, href⟩ := exists_refuses_of_foldlM hrules hc
      exact ⟨other, List.mem_cons_of_mem _ hm, href⟩

end Rules

section Results

theorem compile_of_narrower (h : c.Narrower d) (hc : c.compile rule = .ok r) :
    d.compile rule = .ok r := by
  obtain ⟨hsource, hparse⟩ := compile_eq_ok_iff.mp hc
  exact compile_eq_ok_iff.mpr ⟨hsource, h.parse hparse⟩

theorem refuses_of_compile (hd : d.compile rule = .ok r) (hc : c.compile rule = .error fault) :
    c.Refuses rule fault := by
  cases hparse : c.parse rule with
  | error _ =>
    rw [compile, hparse] at hc
    cases hc
    exact refuses_of_parse (compile_eq_ok_iff.mp hd).2 hparse
  | ok tree =>
    rw [compile, hparse] at hc
    cases hc

theorem combine_of_narrower (h : c.Narrower d) (hc : c.combine op rules = .ok r) :
    d.combine op rules = .ok r := by
  obtain ⟨tree, trees, hparse, hroot⟩ := exists_joined_of_combine hc
  have hdepth := (admits_of_combine hc).depth_le.trans h.max_depth_le
  have hjoin : d.join op rules = .ok r.root := by
    rw [join_of_parse (hparse.imp fun _ _ => h.parse), ← hroot, if_pos hdepth]
  obtain ⟨_, hcount, hc⟩ := bind_eq_ok_iff.mp hc
  obtain ⟨root, -, hc⟩ := bind_eq_ok_iff.mp hc
  cases hc
  rw [combine, h.checkCount hcount, ok_bind, hjoin]
  rfl

theorem refusesList_of_combine (hd : d.combine op rules = .ok r)
    (hc : c.combine op rules = .error fault) : c.RefusesList rules fault := by
  obtain ⟨tree, trees, hparse, -⟩ := exists_joined_of_combine hd
  cases hcount : c.checkCount rules with
  | error _ =>
    rw [combine, hcount] at hc
    cases hc
    exact refusesList_of_checkCount hcount
  | ok _ =>
    have hne : rules ≠ [] := by
      rintro rfl
      cases hparse
    have hrules : ∀ rule ∈ rules, ∃ e, d.parse rule = .ok e := by
      intro rule hm
      obtain ⟨i, hi, rfl⟩ := List.getElem_of_mem hm
      exact ⟨_, (List.forall₂_iff_get.mp hparse).2 i hi (hparse.length_eq ▸ hi)⟩
    cases hjoin : c.join op rules with
    | error _ =>
      rw [combine, hcount, ok_bind, hjoin] at hc
      cases hc
      obtain ⟨rule, hm, href⟩ := exists_refuses_of_join hne hrules hjoin
      exact .rule hm href
    | ok root =>
      rw [combine, hcount, ok_bind, hjoin] at hc
      cases hc

/-- Wider limits change no rule, and what only they admit is refused for a narrow limit by name. -/
theorem limits_only_filter (h : c.Narrower d) :
    (∀ rule,
      (∀ r, c.compile rule = .ok r → d.compile rule = .ok r) ∧
      ∀ r fault, d.compile rule = .ok r → c.compile rule = .error fault → c.Refuses rule fault) ∧
    ∀ op rules,
      (∀ r, c.combine op rules = .ok r → d.combine op rules = .ok r) ∧
      ∀ r fault, d.combine op rules = .ok r → c.combine op rules = .error fault →
        c.RefusesList rules fault := by
  refine ⟨fun rule => ⟨fun r => compile_of_narrower h, fun r fault => refuses_of_compile⟩, ?_⟩
  exact fun op rules => ⟨fun r => combine_of_narrower h, fun r fault => refusesList_of_combine⟩

theorem limits_only_filter_narrow :
    let c := ((withRuleLength {} 9).withRuleCount 2).withDepth 2
    let d := withDepth (withRuleLength {} 12) 3
    let greater := Expression.binary (.relation .greater) (.operand "a") (.operand "b")
    let join (op : Connective) := Expression.binary (.connective op) greater (.operand "c")
    c.Narrower d ∧ c.compile "a > b" = .ok ⟨"a > b", greater⟩ ∧
      d.compile "a > b" = .ok ⟨"a > b", greater⟩ ∧
      d.compile "a > b OR c" = .ok ⟨"a > b OR c", join .or⟩ ∧
      c.compile "a > b OR c" = .error (.ruleTooLong 10 9) ∧
      c.Refuses "a > b OR c" (.ruleTooLong 10 9) ∧
      d.combine .and ["a > b", "c"] = .ok ⟨"(a > b) AND c", join .and⟩ ∧
      c.combine .and ["a > b", "c"] = .error (.treeTooDeep 2) ∧
      c.RefusesList ["a > b", "c"] (.treeTooDeep 2) := by
  intro c d greater join
  have h : c.Narrower d := by
    refine ⟨?_, ?_, by decide⟩
    · intro max hmax
      obtain rfl := Option.some.inj hmax
      exact ⟨9, rfl, by decide⟩
    · intro max hmax
      exact nomatch hmax
  obtain ⟨compile, combine⟩ := limits_only_filter h
  have hshort : c.compile "a > b" = .ok ⟨"a > b", greater⟩ := by rfl
  have hlong : d.compile "a > b OR c" = .ok ⟨"a > b OR c", join .or⟩ := by rfl
  have hjoined : d.combine .and ["a > b", "c"] = .ok ⟨"(a > b) AND c", join .and⟩ := by rfl
  exact ⟨h, hshort, (compile _).1 _ hshort, hlong, rfl, (compile _).2 _ _ hlong rfl, hjoined, rfl,
    (combine _ _).2 _ _ hjoined rfl⟩

end Results

end Compiler

end Rulebook
