import Mathlib.Data.List.Induction
import Rulebook.Proofs.Parser.Output
import Rulebook.Proofs.Parser.Placement

/-! # Soundness of parsing

A token sequence is arranged throughout, or a right parenthesis has no left one, or a left one is
never closed; the parser refuses the last two. What it returns for an arrangement is the one tree
that the signs spell, so the accepted sequences are known exactly, and those whose neighbours fit
are the phrases of the grammar.
-/

namespace Rulebook

namespace Grammar

/-- No right parenthesis lacks its left one, and what follows the last open one is arranged. -/
inductive Begun : List String → Prop
  | closed {tokens : List String} {signs : List Sign} :
      Arranges .disjunction tokens signs → Begun tokens
  | opened {before tokens : List String} {signs : List Sign} :
      Begun before → Arranges .disjunction tokens signs → Begun (before ++ "(" :: tokens)

variable {tokens more : List String}

theorem Begun.append (h : Begun tokens) (hm : Takes .disjunction more) :
    Begun (tokens ++ more) := by
  cases h with
  | closed h =>
    obtain ⟨all, hall⟩ := hm _ _ h
    exact .closed hall
  | opened hb h =>
    obtain ⟨all, hall⟩ := hm _ _ h
    rw [List.append_assoc, List.cons_append]
    exact .opened hb hall

theorem token_cases (token : String) :
    token = "(" ∨ token = ")" ∨ (∃ level op, Joins level token op) ∨ token ∉ symbols := by
  by_cases h : token ∈ symbols
  · simp only [symbols, List.mem_cons, List.not_mem_nil, or_false] at h
    rcases h with rfl | rfl | rfl | rfl | rfl | rfl | rfl
    · exact .inl rfl
    · exact .inr (.inl rfl)
    · exact .inr (.inr (.inl ⟨_, _, .and⟩))
    · exact .inr (.inr (.inl ⟨_, _, .or⟩))
    · exact .inr (.inr (.inl ⟨_, _, .greater⟩))
    · exact .inr (.inr (.inl ⟨_, _, .less⟩))
    · exact .inr (.inr (.inl ⟨_, _, .equal⟩))
  · exact .inr (.inr (.inr h))

theorem begun_or_unmatched (tokens : List String) :
    Begun tokens ∨ ∃ before after signs,
      tokens = before ++ ")" :: after ∧ Arranges .disjunction before signs := by
  -- The last token continues what stands before it, unless that has nothing open to close.
  induction tokens using List.reverseRecOn with
  | nil => exact .inl (.closed (Arranges.nothing.of_atom _))
  | append_singleton tokens token ih =>
    rcases ih with h | ⟨before, after, signs, rfl, h⟩
    · rcases token_cases token with rfl | rfl | ⟨level, op, hj⟩ | ht
      · exact .inl (.opened h (Arranges.nothing.of_atom _))
      · cases h with
        | closed h => exact .inr ⟨tokens, [], _, rfl, h⟩
        | @opened before inner _ hb h =>
          have hgroup := (takes_atoms (.group h)).toDisjunction
          left
          simpa using hb.append hgroup
      · exact .inl (h.append (takes_operator hj).toDisjunction)
      · exact .inl (h.append (takes_atoms (.operand ht)).toDisjunction)
    · exact .inr ⟨before, after ++ [token], signs, by simp, h⟩

end Grammar

namespace Parser

open Grammar

variable {limit : Nat} {before after tokens : List String} {signs : List Sign} {e : Expression}

theorem exists_parse_arranged_eq (h : Arranges .disjunction tokens signs) :
    ∃ steps : List (Sign × Nat), steps.map (·.1) = signs ∧ ∀ limit,
      parse limit tokens = (do
        let output ← run (min limit Expression.depthLimit) steps []
        finish (min limit Expression.depthLimit) ⟨[], output⟩) := by
  obtain ⟨steps, hsteps, hp⟩ := exists_performs h 0
  exact ⟨steps, hsteps, fun limit => finish_of_performs (hp (min limit Expression.depthLimit))
    (show Settled _ Stacks.empty.pending from trivial)⟩

theorem exists_parse_unmatched_eq (h : Arranges .disjunction before signs)
    (after : List String) :
    ∃ steps : List (Sign × Nat), ∀ limit, parse limit (before ++ ")" :: after) = (do
      let _ ← run (min limit Expression.depthLimit) steps []
      throw (.malformed (.unmatchedRight before.length))) := by
  obtain ⟨steps, -, hp⟩ := exists_performs h 0
  refine ⟨steps, fun limit => ?_⟩
  have hright := push_right_of_performs (hp (min limit Expression.depthLimit))
    (show Settled _ Stacks.empty.pending from trivial) (0 + before.length)
  rw [parse, pushAll_append]
  simp only [pushAll]
  rw [← bind_assoc, hright]
  simp only [bind_assoc, Nat.zero_add]
  rfl

theorem exists_parse_unclosed_eq (before : List String)
    (h : Arranges .disjunction tokens signs) :
    ∃ steps : List (Sign × Nat), ∀ limit, parse limit (before ++ "(" :: tokens) = (do
      let s ← pushAll (min limit Expression.depthLimit) .empty 0 before
      let _ ← run (min limit Expression.depthLimit) steps s.output
      throw (.malformed (.unclosedLeft before.length))) := by
  obtain ⟨steps, -, hp⟩ := exists_performs h (0 + before.length + 1)
  refine ⟨steps, fun limit => ?_⟩
  rw [parse, pushAll_append, bind_assoc]
  refine bind_congr fun s => ?_
  let opened : Stacks := ⟨.leftParenthesis (0 + before.length) :: s.pending, s.output⟩
  have hfinish := finish_of_performs (hp (min limit Expression.depthLimit))
    (show Settled _ opened.pending from trivial)
  refine hfinish.trans (bind_congr fun output => ?_)
  simp only [Nat.zero_add, opened]
  rfl

theorem parse_unmatched_ne_ok (h : Arranges .disjunction before signs) :
    parse limit (before ++ ")" :: after) ≠ .ok e := by
  obtain ⟨steps, heq⟩ := exists_parse_unmatched_eq h after
  rw [heq limit]
  intro hparse
  obtain ⟨output, -, hthrow⟩ := bind_eq_ok_iff.mp hparse
  cases hthrow

theorem parse_unclosed_ne_ok (h : Arranges .disjunction tokens signs) :
    parse limit (before ++ "(" :: tokens) ≠ .ok e := by
  obtain ⟨steps, heq⟩ := exists_parse_unclosed_eq before h
  rw [heq limit]
  intro hparse
  obtain ⟨s, -, hparse⟩ := bind_eq_ok_iff.mp hparse
  obtain ⟨output, -, hthrow⟩ := bind_eq_ok_iff.mp hparse
  cases hthrow

/-- What is parsed is arranged throughout. -/
theorem exists_arranges_of_parse (h : parse limit tokens = .ok e) :
    ∃ signs, Arranges .disjunction tokens signs := by
  rcases begun_or_unmatched tokens with hb | ⟨before, after, signs, rfl, hb⟩
  · cases hb with
    | closed hb => exact ⟨_, hb⟩
    | opened _ hb => exact absurd h (parse_unclosed_ne_ok hb)
  · exact absurd h (parse_unmatched_ne_ok hb)

theorem arranges_of_parse (h : parse limit tokens = .ok e) :
    Arranges .disjunction tokens e.polish := by
  obtain ⟨signs, ha⟩ := exists_arranges_of_parse h
  obtain ⟨steps, hsteps, heq⟩ := exists_parse_arranged_eq ha
  rw [heq limit] at h
  obtain ⟨output, hrun, hf⟩ := bind_eq_ok_iff.mp h
  have hspelled := spelled_of_run hrun
  rcases output with _ | ⟨built, _ | ⟨_, _⟩⟩
  · exact nomatch hf
  · obtain rfl : built.tree = e := Except.ok.inj hf
    change steps.map (·.1) = built.tree.polish at hspelled
    rw [← hspelled, hsteps]
    exact ha
  · exact nomatch hf

theorem parse_eq_ok_iff : parse limit tokens = .ok e ↔
    Arranges .disjunction tokens e.polish ∧
      e.depth ≤ max 1 (min limit Expression.depthLimit) := by
  constructor
  · intro h
    exact ⟨arranges_of_parse h, (sound_of_parse h).1⟩
  · rintro ⟨ha, hd⟩
    rw [parse_of_arranges ha, if_pos hd]

/-- The tree of a phrase is the one that parsing returns. -/
theorem phrase_iff_inPlace (h : parse limit tokens = .ok e) :
    Phrase .disjunction tokens e ↔ InPlace tokens := by
  constructor
  · exact Phrase.inPlace
  · intro hp
    obtain ⟨f, hf⟩ := (arranges_of_parse h).phrase_of_inPlace hp
    have hparse := parse_of_arranges hf.arranges limit
    rw [h] at hparse
    split at hparse
    · obtain rfl := Except.ok.inj hparse
      exact hf
    · exact nomatch hparse

/-- The parser accepts what comes to the signs of one tree; phrases have all neighbours in place. -/
theorem parse_arrangement (limit : Nat) (tokens : List String) (e : Expression) :
    (parse limit tokens = .ok e ↔
      Arranges .disjunction tokens e.polish ∧ e.depth ≤ max 1 (min limit 100)) ∧
    (parse limit tokens = .ok e ∧ InPlace tokens ↔
      Phrase .disjunction tokens e ∧ e.depth ≤ max 1 (min limit 100)) := by
  refine ⟨parse_eq_ok_iff, ?_, ?_⟩
  · rintro ⟨h, hp⟩
    exact ⟨(phrase_iff_inPlace h).mpr hp, (parse_eq_ok_iff.mp h).2⟩
  · rintro ⟨h, hd⟩
    exact ⟨parse_eq_ok_iff.mpr ⟨h.arranges, hd⟩, h.inPlace⟩

/-- An operator may follow both its operands, and parentheses may be empty. -/
theorem parse_out_of_place :
    (parse 100 ["a", "b", ">"] =
        .ok (.binary (.relation .greater) (.operand "a") (.operand "b")) ∧
      ∀ e, ¬ Phrase .disjunction ["a", "b", ">"] e) ∧
    (parse 100 ["a", "(", ")"] = .ok (.operand "a") ∧
      ∀ e, ¬ Phrase .disjunction ["a", "(", ")"] e) := by
  refine ⟨⟨rfl, fun e h => ?_⟩, rfl, fun e h => ?_⟩
  · exact absurd h.inPlace (by decide)
  · exact absurd h.inPlace (by decide)

end Parser

end Rulebook
