import Rulebook.Proofs.Combination
import Rulebook.Proofs.Parser.Soundness
import Rulebook.Proofs.Rendering

/-! # Combining texts

Rules may be combined by their trees or by their texts, each in parentheses. A rule that is
parsed on its own is arranged throughout, so in parentheses it is one atom, whatever its form;
and the depth limit refuses the combined tree either way.
-/

namespace Rulebook

open Grammar
open List (Forall₂)

/-- The text of each rule in parentheses, with the connective between them. -/
def Connective.spell (op : Connective) (rules : List String) : String :=
  (" " ++ op.symbol ++ " ").intercalate (rules.map fun rule => "(" ++ rule ++ ")")

variable {c : Compiler} {op : Connective} {rule text : String} {rules : List String}
  {tree : Expression} {trees : List Expression} {level : Level}

theorem depth_le_depth_joined (op : Connective) (tree : Expression) (trees : List Expression) :
    tree.depth ≤ (Expression.joined op tree trees).depth := by
  induction trees generalizing tree with
  | nil => exact Nat.le_refl _
  | cons next trees ih =>
    exact Nat.le_trans (Nat.le_of_lt (Parser.left_lt_depth (.connective op) tree next)) (ih _)

theorem arranges_enclosed (h : Arranges .disjunction (Token.tokenize rule) tree.polish) :
    Arranges .atom (Token.tokenize ("(" ++ rule ++ ")")) tree.polish := by
  rw [tokenize_enclosed]
  exact .group h

theorem arranges_extended (hj : Joins level op.symbol (.connective op)) {next : Expression}
    (h : Arranges level (Token.tokenize text) tree.polish)
    (hnext : Arranges .disjunction (Token.tokenize rule) next.polish) :
    Arranges level (Token.tokenize (text ++ (" " ++ op.symbol ++ " ") ++ ("(" ++ rule ++ ")")))
      (Expression.binary (.connective op) tree next).polish := by
  have htokens := tokenize_joined text ("(" ++ rule ++ ")") (.connective op)
  have htext : text ++ (" " ++ op.symbol ++ " ") ++ ("(" ++ rule ++ ")") =
      text ++ " " ++ op.symbol ++ " " ++ ("(" ++ rule ++ ")") := by
    simp only [String.append_assoc]
  change Token.tokenize (text ++ " " ++ op.symbol ++ " " ++ ("(" ++ rule ++ ")")) = _ at htokens
  rw [htext, htokens]
  exact .chain hj h ((arranges_enclosed hnext).of_atom _)

theorem arranges_intercalate (hj : Joins level op.symbol (.connective op))
    (h : Arranges level (Token.tokenize text) tree.polish)
    (hrules : Forall₂ (fun rule next => Arranges .disjunction (Token.tokenize rule) next.polish)
      rules trees) :
    Arranges level
      (Token.tokenize ((" " ++ op.symbol ++ " ").intercalate
        (text :: rules.map fun rule => "(" ++ rule ++ ")")))
      (Expression.joined op tree trees).polish := by
  -- The first rule goes over to the text as its tree is joined to the tree.
  induction hrules generalizing text tree with
  | nil =>
    rw [List.map_nil, String.intercalate_singleton]
    exact h
  | cons hnext _ ih =>
    rw [List.map_cons, String.intercalate_cons_cons, ← String.intercalate_cons_append]
    exact ih (arranges_extended hj h hnext)

/-- The text of a combination comes to the joined tree. -/
theorem arranges_spell
    (h : Forall₂ (fun rule next => Arranges .disjunction (Token.tokenize rule) next.polish)
      rules (tree :: trees)) :
    Arranges .disjunction (Token.tokenize (op.spell rules))
      (Expression.joined op tree trees).polish := by
  obtain ⟨level, hj⟩ := exists_joins (.connective op)
  cases h with
  | cons hrule hrules =>
    exact (arranges_intercalate hj ((arranges_enclosed hrule).of_atom _) hrules).toDisjunction

namespace Compiler

/-- The rule is of admitted length and comes to the tree, be it too deep or not. -/
def Reads (c : Compiler) (rule : String) (tree : Expression) : Prop :=
  c.checkLength rule = .ok () ∧ Arranges .disjunction (Token.tokenize rule) tree.polish

theorem reads_of_parse (h : c.parse rule = .ok tree) : c.Reads rule tree := by
  obtain ⟨_, hlength, h⟩ := bind_eq_ok_iff.mp h
  exact ⟨hlength, Parser.arranges_of_parse h⟩

theorem arranges_of_parse (h : c.parse rule = .ok tree) :
    Arranges .disjunction (Token.tokenize rule) tree.polish := (reads_of_parse h).2

theorem Reads.parse (h : c.Reads rule tree) :
    c.parse rule =
      if tree.depth ≤ max 1 c.depth then .ok tree else .error (.treeTooDeep c.depth) := by
  rw [Compiler.parse, h.1, ok_bind, Parser.parse_of_arranges h.2, Nat.min_eq_left c.depth_le]

theorem parse_of_arranges (hlength : c.ruleLength = none)
    (h : Arranges .disjunction (Token.tokenize rule) tree.polish) :
    c.parse rule =
      if tree.depth ≤ max 1 c.depth then .ok tree else .error (.treeTooDeep c.depth) := by
  have hok : c.checkLength rule = .ok () := by
    rw [checkLength, hlength]
    rfl
  exact Reads.parse ⟨hok, h⟩

theorem Reads.extend {next : Expression} (h : c.Reads rule next) :
    c.extend op tree rule =
      if (Expression.binary (.connective op) tree next).depth ≤ max 1 c.depth then
        .ok (.binary (.connective op) tree next)
      else .error (.treeTooDeep c.depth) := by
  have hone := Parser.one_le_depth tree
  have hleft := Parser.left_lt_depth (.connective op) tree next
  have hright := Parser.right_lt_depth (.connective op) tree next
  rw [Compiler.extend, h.parse]
  by_cases hnext : next.depth ≤ max 1 c.depth
  · rw [if_pos hnext, ok_bind]
    by_cases hd : c.depth < (Expression.binary (.connective op) tree next).depth
    · rw [if_pos hd, if_neg (by omega)]
      rfl
    · rw [if_neg hd, if_pos (by omega)]
      rfl
  · rw [if_neg hnext, if_neg (by omega)]
    rfl

/-- Rules are joined as what they come to, unless the joined tree is too deep. -/
theorem foldlM_extend_of_reads (hd : tree.depth ≤ max 1 c.depth)
    (h : Forall₂ c.Reads rules trees) :
    rules.foldlM (c.extend op) tree =
      if (Expression.joined op tree trees).depth ≤ max 1 c.depth then
        .ok (Expression.joined op tree trees)
      else .error (.treeTooDeep c.depth) := by
  induction h generalizing tree with
  | nil =>
    rw [Expression.joined_nil, if_pos hd]
    rfl
  | @cons rule next rules trees hnext _ ih =>
    rw [List.foldlM_cons, hnext.extend, Expression.joined_cons]
    by_cases hext : (Expression.binary (.connective op) tree next).depth ≤ max 1 c.depth
    · rw [if_pos hext, ok_bind]
      exact ih hext
    · -- A tree that is too deep remains so, whatever is joined to it.
      have hle := depth_le_depth_joined op (.binary (.connective op) tree next) trees
      rw [if_neg hext, if_neg fun h => hext (Nat.le_trans hle h)]
      rfl

theorem join_of_reads (h : Forall₂ c.Reads rules (tree :: trees)) :
    c.join op rules =
      if (Expression.joined op tree trees).depth ≤ max 1 c.depth then
        .ok (Expression.joined op tree trees)
      else .error (.treeTooDeep c.depth) := by
  cases h with
  | cons hrule hrules =>
    rw [join, hrule.parse]
    by_cases hd : tree.depth ≤ max 1 c.depth
    · rw [if_pos hd, ok_bind]
      exact foldlM_extend_of_reads hd hrules
    · have hle := depth_le_depth_joined op tree trees
      rw [if_neg hd, if_neg fun h => hd (Nat.le_trans hle h)]
      rfl

theorem join_of_parse
    (h : Forall₂ (fun rule next => c.parse rule = .ok next) rules (tree :: trees)) :
    c.join op rules =
      if (Expression.joined op tree trees).depth ≤ max 1 c.depth then
        .ok (Expression.joined op tree trees)
      else .error (.treeTooDeep c.depth) :=
  join_of_reads (h.imp fun _ _ => reads_of_parse)

theorem exists_forall₂_parse (h : ∀ rule ∈ rules, ∃ r, c.compile rule = .ok r) :
    ∃ trees, Forall₂ (fun rule tree => c.parse rule = .ok tree) rules trees := by
  induction rules with
  | nil => exact ⟨[], .nil⟩
  | cons rule rules ih =>
    rw [List.forall_mem_cons] at h
    obtain ⟨⟨r, hr⟩, hrules⟩ := h
    obtain ⟨trees, htrees⟩ := ih hrules
    exact ⟨r.root :: trees, .cons (compile_eq_ok_iff.mp hr).2 htrees⟩

/-- Combining rules and compiling their texts in parentheses come to the same tree or fault. -/
theorem combine_agrees_with_spell (hlength : c.ruleLength = none) (hcount : c.ruleCount = none)
    (hne : rules ≠ []) (h : ∀ rule ∈ rules, ∃ r, c.compile rule = .ok r) (op : Connective) :
    ((∃ r s, c.combine op rules = .ok r ∧ c.compile (op.spell rules) = .ok s ∧
        r.root = s.root) ∨
      c.combine op rules = .error (.treeTooDeep c.depth) ∧
        c.compile (op.spell rules) = .error (.treeTooDeep c.depth)) ∧
    ∀ rule ∈ rules, ∃ r s, c.compile rule = .ok r ∧ c.compile ("(" ++ rule ++ ")") = .ok s ∧
      r.root = s.root := by
  constructor
  · obtain ⟨trees, hparse⟩ := exists_forall₂_parse h
    cases hparse with
    | nil => exact absurd rfl hne
    | @cons rule tree rules trees hrule hrules =>
      have hparse : Forall₂ (fun rule tree => c.parse rule = .ok tree) (rule :: rules)
          (tree :: trees) := .cons hrule hrules
      have hspell : Arranges .disjunction (Token.tokenize (op.spell (rule :: rules)))
          (Expression.joined op tree trees).polish :=
        arranges_spell (hparse.imp fun _ _ h => arranges_of_parse h)
      rw [combine, checkCount, hcount, compile, parse_of_arranges hlength hspell,
        join_of_parse hparse]
      by_cases hd : (Expression.joined op tree trees).depth ≤ max 1 c.depth
      · simp only [if_pos hd]
        exact .inl ⟨_, _, rfl, rfl, rfl⟩
      · simp only [if_neg hd]
        exact .inr ⟨rfl, rfl⟩
  · intro rule hrule
    obtain ⟨r, hr⟩ := h rule hrule
    have hparse := (compile_eq_ok_iff.mp hr).2
    have henclosed := parse_of_arranges hlength
      ((arranges_enclosed (arranges_of_parse hparse)).of_atom .disjunction)
    rw [if_pos (admits_of_parse hparse).depth_le] at henclosed
    exact ⟨r, ⟨_, r.root⟩, hr, compile_eq_ok_iff.mpr ⟨rfl, henclosed⟩, rfl⟩

theorem combine_agrees_with_spell_misplaced :
    let c := withDepth {} 3
    let rules := ["a b >", "(c)OR d"]
    let root := Expression.binary (.connective .and)
      (.binary (.relation .greater) (.operand "a") (.operand "b"))
      (.binary (.connective .or) (.operand "c") (.operand "d"))
    (∀ rule ∈ rules, ∃ r, c.compile rule = .ok r) ∧
      c.combine .and rules = .ok ⟨"(a > b) AND (c OR d)", root⟩ ∧
      c.compile "(a b >) AND ((c)OR d)" = .ok ⟨"(a b >) AND ((c)OR d)", root⟩ := by
  intro c rules root
  have hrules : ∀ rule ∈ rules, ∃ r, c.compile rule = .ok r := by
    intro rule hrule
    rcases List.mem_pair.mp hrule with rfl | rfl
    · exact ⟨_, rfl⟩
    · exact ⟨_, rfl⟩
  have hcombine : c.combine .and rules = .ok ⟨"(a > b) AND (c OR d)", root⟩ := by rfl
  refine ⟨hrules, hcombine, ?_⟩
  rcases (combine_agrees_with_spell rfl rfl (by decide) hrules .and).1 with
    ⟨r, ⟨source, _⟩, hr, hs, rfl⟩ | ⟨hr, -⟩
  · obtain rfl := Except.ok.inj (hr.symm.trans hcombine)
    obtain ⟨rfl, -⟩ := compile_eq_ok_iff.mp hs
    exact hs
  · exact nomatch hr.symm.trans hcombine

end Compiler

end Rulebook
