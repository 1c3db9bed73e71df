import Rulebook.Proofs.Lexing
import Rulebook.Proofs.Parser.Arrangement
import Rulebook.Proofs.Parser.Output
import Rulebook.Rule.Compiler

/-! # Rendering and compiling

The text of a tree encloses every operand that is itself joined, so its tokens are a phrase of
the grammar and the phrase has this very tree. It follows that a tree is compiled from its text
exactly if it is not too deep and its leaves are plain, which holds of all that is compiled.
-/

namespace Rulebook

open Grammar Token

/-- A text that a rule can hold as one operand. -/
def Operand.IsPlain (text : String) : Prop :=
  text ≠ "" ∧ (∀ c ∈ text.toList, Text.isBlank c = false ∧ c ≠ '(' ∧ c ≠ ')') ∧
    text ∉ ["AND", "OR", ">", "<", "=="]

def Expression.IsWritten (e : Expression) : Prop :=
  e.depth ≤ 100 ∧ ∀ text ∈ e.operands, Operand.IsPlain text

def compileRule (text : String) : Except Fault Expression := do
  return (← Compiler.compile {} text).root

namespace Operand

variable {text : String}

theorem isInner_iff {c : Char} :
    isInner c = true ↔ Text.isBlank c = false ∧ c ≠ '(' ∧ c ≠ ')' := by
  simp [isInner, isParenthesis]

theorem IsPlain.isWord (h : IsPlain text) : IsWord text :=
  ⟨h.1, fun c hc => isInner_iff.mpr (h.2.1 c hc)⟩

theorem IsPlain.not_mem_symbols (h : IsPlain text) : text ∉ symbols := by
  obtain ⟨-, hc, hs⟩ := h
  intro hm
  rcases List.mem_cons.mp hm with rfl | hm
  · exact (hc '(' (by simp)).2.1 rfl
  rcases List.mem_cons.mp hm with rfl | hm
  · exact (hc ')' (by simp)).2.2 rfl
  · exact hs hm

theorem isPlain_of_mem_tokenize {rule : String} (hm : text ∈ tokenize rule)
    (hs : text ∉ symbols) : IsPlain text := by
  rcases parenthesis_or_isWord hm with rfl | rfl | hw
  · exact (hs (by decide)).elim
  · exact (hs (by decide)).elim
  · refine ⟨hw.1, fun c hc => isInner_iff.mp (hw.2 c hc), ?_⟩
    exact fun h => hs (List.mem_cons_of_mem _ (List.mem_cons_of_mem _ h))

end Operand

open Operand

theorem tokenize_symbol (op : Operator) : tokenize op.symbol = [op.symbol] := by
  rcases op with (_ | _) | (_ | _ | _) <;> rfl

theorem tokenize_joined (left right : String) (op : Operator) :
    tokenize (left ++ " " ++ op.symbol ++ " " ++ right) =
      tokenize left ++ op.symbol :: tokenize right := by
  have hb : Text.isBlank ' ' = true := rfl
  change tokenize (left ++ String.singleton ' ' ++ op.symbol ++ String.singleton ' ' ++ right) = _
  rw [tokenize_append_blank _ _ hb, tokenize_append_blank _ _ hb, tokenize_symbol,
    List.append_assoc]
  rfl

theorem tokenize_enclosed (text : String) :
    tokenize ("(" ++ text ++ ")") = "(" :: tokenize text ++ [")"] := by
  have left : isParenthesis '(' = true := rfl
  have right : isParenthesis ')' = true := rfl
  have hl := tokenize_append_parenthesis "" text left
  have hr := tokenize_append_parenthesis ("(" ++ text) "" right
  rw [String.empty_append] at hl
  rw [String.append_empty] at hr
  change tokenize ("(" ++ text) = _ at hl
  change tokenize ("(" ++ text ++ ")") = _ at hr
  rw [hr, hl]
  rfl

namespace Expression

variable {e : Expression}

theorem phrase_enclose (hp : ∀ text ∈ e.operands, IsPlain text)
    (h : Phrase .disjunction (tokenize e.render) e) :
    Phrase .atom (tokenize (e.enclose e.render)) e := by
  cases e with
  | operand text =>
    have ht : IsPlain text := hp text (List.mem_singleton_self _)
    change Phrase .atom (tokenize text) _
    rw [tokenize_word ht.isWord]
    exact .operand ht.not_mem_symbols
  | binary op left right =>
    change Phrase .atom (tokenize ("(" ++ _ ++ ")")) _
    rw [tokenize_enclosed]
    exact .group h

theorem phrase_render (hp : ∀ text ∈ e.operands, IsPlain text) :
    Phrase .disjunction (tokenize e.render) e := by
  induction e with
  | operand text =>
    have ht : IsPlain text := hp text (List.mem_singleton_self _)
    rw [render, tokenize_word ht.isWord]
    exact (Phrase.operand ht.not_mem_symbols).of_atom .disjunction
  | binary op left right ihl ihr =>
    have hleft : ∀ text ∈ left.operands, IsPlain text :=
      fun text h => hp text (List.mem_append_left _ h)
    have hright : ∀ text ∈ right.operands, IsPlain text :=
      fun text h => hp text (List.mem_append_right _ h)
    obtain ⟨level, hj⟩ := exists_joins op
    have hl := (phrase_enclose hleft (ihl hleft)).of_atom level
    have hr := (phrase_enclose hright (ihr hright)).of_atom level.link
    rw [render, tokenize_joined]
    exact (Phrase.chain hj hl hr).toDisjunction

end Expression

namespace Compiler

variable {c : Compiler} {op : Connective} {e : Expression} {r : Rule}

/-- What the compiler makes of rules: a tree of plain leaves within its limit, or a lone leaf. -/
structure Admits (c : Compiler) (e : Expression) : Prop where
  depth_le : e.depth ≤ max 1 c.depth
  plain : ∀ text ∈ e.operands, IsPlain text

theorem Admits.isWritten (h : c.Admits e) : e.IsWritten := by
  have hd := h.depth_le
  have hc := c.depth_le
  simp only [Expression.depthLimit] at hc
  exact ⟨by omega, h.plain⟩

theorem admits_of_parse {rule : String} (h : c.parse rule = .ok e) : c.Admits e := by
  obtain ⟨-, -, h⟩ := bind_eq_ok_iff.mp h
  obtain ⟨hd, ho⟩ := Parser.sound_of_parse h
  rw [Nat.min_eq_left c.depth_le] at hd
  exact ⟨hd, fun text ht => isPlain_of_mem_tokenize (ho text ht).1 (ho text ht).2⟩

theorem admits_of_extend {tree : Expression} {rule : String} (ht : c.Admits tree)
    (h : c.extend op tree rule = .ok e) : c.Admits e := by
  obtain ⟨next, hn, h⟩ := bind_eq_ok_iff.mp h
  have hnext := admits_of_parse hn
  dsimp only at h
  split at h
  · cases h
  · rename_i hd
    cases h
    refine ⟨by omega, fun text hm => ?_⟩
    rcases List.mem_append.mp hm with hm | hm
    · exact ht.plain text hm
    · exact hnext.plain text hm

theorem admits_of_foldlM {tree : Expression} {rules : List String} (ht : c.Admits tree)
    (h : rules.foldlM (c.extend op) tree = .ok e) : c.Admits e := by
  induction rules generalizing tree with
  | nil =>
    cases h
    exact ht
  | cons rule rules ih =>
    rw [List.foldlM_cons] at h
    obtain ⟨next, hn, h⟩ := bind_eq_ok_iff.mp h
    exact ih (admits_of_extend ht hn) h

theorem admits_of_compile {rule : String} (h : c.compile rule = .ok r) : c.Admits r.root := by
  obtain ⟨e, he, h⟩ := bind_eq_ok_iff.mp h
  cases h
  exact admits_of_parse he

theorem admits_of_combine {rules : List String} (h : c.combine op rules = .ok r) :
    c.Admits r.root := by
  obtain ⟨-, -, h⟩ := bind_eq_ok_iff.mp h
  obtain ⟨e, he, h⟩ := bind_eq_ok_iff.mp h
  cases h
  cases rules with
  | nil => cases he
  | cons rule rules =>
    obtain ⟨tree, ht, he⟩ := bind_eq_ok_iff.mp he
    exact admits_of_foldlM (admits_of_parse ht) he

/-- A combination of two rules or more is known by the text of its tree. -/
theorem source_of_combine {rules : List String} (h : c.combine op rules = .ok r)
    (hl : 2 ≤ rules.length) : r.source = r.root.render := by
  obtain ⟨-, -, h⟩ := bind_eq_ok_iff.mp h
  obtain ⟨e, -, h⟩ := bind_eq_ok_iff.mp h
  cases h
  split
  · contradiction
  · rfl

theorem compile_render (hl : c.ruleLength = none) (hp : ∀ text ∈ e.operands, IsPlain text)
    (hd : e.depth ≤ max 1 c.depth) : c.compile e.render = .ok ⟨e.render, e⟩ := by
  have hparse : Parser.parse c.depth (tokenize e.render) = .ok e := by
    have h := Parser.finish_pushAll (Expression.phrase_render hp)
      (min c.depth Expression.depthLimit)
    rw [Nat.min_eq_left c.depth_le, if_pos hd] at h
    rw [Parser.parse, Nat.min_eq_left c.depth_le]
    exact h
  simp only [compile, parse, checkLength, hl, hparse]
  rfl

end Compiler

theorem compileRule_render_iff {e : Expression} :
    compileRule e.render = .ok e ↔ e.IsWritten := by
  constructor
  · intro h
    obtain ⟨r, hr, h⟩ := bind_eq_ok_iff.mp h
    cases h
    exact (Compiler.admits_of_compile hr).isWritten
  · rintro ⟨hd, hp⟩
    rw [compileRule, Compiler.compile_render rfl hp (Nat.le_trans hd (Nat.le_max_right 1 100))]
    rfl

/-- A tree is compiled from its text exactly if it is written, as all compiled trees are. -/
theorem rendering_inverts_compiling :
    (∀ e : Expression, compileRule e.render = .ok e ↔ e.IsWritten) ∧
    (∀ (c : Compiler) (rule : String) (r : Rule), c.compile rule = .ok r →
      compileRule r.root.render = .ok r.root) ∧
    ∀ (c : Compiler) (op : Connective) (rules : List String) (r : Rule),
      c.combine op rules = .ok r →
      compileRule r.root.render = .ok r.root ∧
      (2 ≤ rules.length → ∀ d : Compiler, d.ruleLength = none → c.depth ≤ d.depth →
        d.compile r.source = .ok ⟨r.source, r.root⟩) := by
  refine ⟨fun e => compileRule_render_iff, ?_, ?_⟩
  · intro c rule r h
    exact compileRule_render_iff.mpr (Compiler.admits_of_compile h).isWritten
  · intro c op rules r h
    have ha := Compiler.admits_of_combine h
    refine ⟨compileRule_render_iff.mpr ha.isWritten, fun hl d hd hle => ?_⟩
    have hdepth := ha.depth_le
    rw [Compiler.source_of_combine h hl]
    exact Compiler.compile_render hd ha.plain (by omega)

theorem combination_compiles :
    let c : Compiler := Compiler.withDepth {} 3
    let e := Expression.binary (.connective .or)
      (.binary (.relation .greater) (.operand "a") (.operand "'1'"))
      (.binary (.connective .and) (.operand "b") (.operand "c"))
    let r : Rule := ⟨"(a > '1') OR (b AND c)", e⟩
    c.combine .or ["a > '1'", "((b)AND c)"] = .ok r ∧
      Compiler.compile {} r.source = .ok r ∧ compileRule r.source = .ok e := by
  intro c e r
  have h : c.combine .or ["a > '1'", "((b)AND c)"] = .ok r := by rfl
  obtain ⟨-, -, hcombine⟩ := rendering_inverts_compiling
  obtain ⟨hroot, hsource⟩ := hcombine c .or _ r h
  exact ⟨h, hsource (by decide) {} rfl (by decide), hroot⟩

end Rulebook
