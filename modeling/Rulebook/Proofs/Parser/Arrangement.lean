import Rulebook.Proofs.Parser.Reading

/-! # Arrangements

The parser does not look at what stands next to a token. It puts every operator behind what the
operator joins, as reverse Polish notation does, and carries out the signs from left to right. So
it reads more than the phrases of the grammar: any number of atoms may stand where the grammar
wants one, if only the signs come to one tree at the end.

A phrase of the grammar comes to the signs of its tree, so the parser reads every disjunction as
its tree. If the tree is too deep, this is the one fault that can come.
-/

namespace Rulebook

/-- A sign of reverse Polish notation; an operator takes the two trees before it. -/
inductive Sign
  | operand (text : String)
  | operator (op : Operator)
deriving DecidableEq

def Expression.polish : Expression → List Sign
  | operand text => [.operand text]
  | binary op left right => left.polish ++ right.polish ++ [.operator op]

namespace Grammar

/-- A phrase, but that any number of atoms may stand for one, with the signs of the phrase. -/
inductive Arranges : Level → List String → List Sign → Prop
  | nothing : Arranges .atom [] []
  | operand {token : String} : token ∉ symbols → Arranges .atom [token] [.operand token]
  | group {tokens : List String} {signs : List Sign} :
      Arranges .disjunction tokens signs → Arranges .atom ("(" :: tokens ++ [")"]) signs
  | beside {lefts rights : List String} {signs more : List Sign} :
      Arranges .atom lefts signs → Arranges .atom rights more →
      Arranges .atom (lefts ++ rights) (signs ++ more)
  | single {level : Level} {tokens : List String} {signs : List Sign} :
      Arranges level.link tokens signs → Arranges level tokens signs
  | chain {level : Level} {lefts rights : List String} {token : String} {op : Operator}
      {signs more : List Sign} :
      Joins level token op → Arranges level lefts signs → Arranges level.link rights more →
      Arranges level (lefts ++ token :: rights) (signs ++ more ++ [.operator op])

section Arranges

variable {tokens : List String} {signs : List Sign} {e : Expression}

theorem Phrase.arranges {level : Level} (h : Phrase level tokens e) :
    Arranges level tokens e.polish := by
  induction h with
  | operand ht => exact .operand ht
  | group _ ih => exact .group ih
  | single _ ih => exact .single ih
  | chain hj _ _ ihl ihr => exact .chain hj ihl ihr

theorem Arranges.of_atom (h : Arranges .atom tokens signs) :
    ∀ level : Level, Arranges level tokens signs
  | .atom => h
  | .comparison => .single h
  | .conjunction => .single (.single h)
  | .disjunction => .single (.single (.single h))

theorem Arranges.toDisjunction : ∀ {level : Level}, Arranges level tokens signs →
    Arranges .disjunction tokens signs
  | .disjunction, h => h
  | .conjunction, h => .single h
  | .comparison, h => .single (.single h)
  | .atom, h => h.of_atom .disjunction

def Takes (level : Level) (tokens : List String) : Prop :=
  ∀ (before : List String) (signs : List Sign), Arranges level before signs →
    ∃ all, Arranges level (before ++ tokens) all

theorem takes_atoms (h : Arranges .atom tokens signs) : Takes .atom tokens :=
  fun _ _ hb => ⟨_, .beside hb h⟩

theorem takes_operator {level : Level} {token : String} {op : Operator}
    (hj : Joins level token op) : Takes level [token] :=
  fun _ _ hb => ⟨_, .chain hj hb (Arranges.nothing.of_atom _)⟩

theorem Takes.of_link {level : Level} (hne : level ≠ .atom) (h : Takes level.link tokens) :
    Takes level tokens := by
  intro before signs hb
  cases hb with
  | nothing => exact absurd rfl hne
  | operand _ => exact absurd rfl hne
  | group _ => exact absurd rfl hne
  | beside _ _ => exact absurd rfl hne
  | single hb =>
    obtain ⟨all, hall⟩ := h _ _ hb
    exact ⟨all, .single hall⟩
  | chain hj hl hr =>
    obtain ⟨all, hall⟩ := h _ _ hr
    rw [List.append_assoc, List.cons_append]
    exact ⟨_, .chain hj hl hall⟩

theorem Takes.toDisjunction {level : Level} (h : Takes level tokens) :
    Takes .disjunction tokens := by
  have conjunction (h : Takes .conjunction tokens) : Takes .disjunction tokens :=
    .of_link (by decide) h
  have comparison (h : Takes .comparison tokens) : Takes .conjunction tokens :=
    .of_link (by decide) h
  have atom (h : Takes .atom tokens) : Takes .comparison tokens := .of_link (by decide) h
  cases level with
  | disjunction => exact h
  | conjunction => exact conjunction h
  | comparison => exact conjunction (comparison h)
  | atom => exact conjunction (comparison (atom h))

end Arranges

end Grammar

namespace Parser

open Grammar

variable {limit : Nat}

/-- Carries out signs, each with the position of its token, on the trees so far. -/
def run (limit : Nat) : List (Sign × Nat) → List Built → Except Fault (List Built)
  | [], output => return output
  | (.operand text, _) :: steps, output => run limit steps (⟨.operand text, 1⟩ :: output)
  | (.operator op, position) :: steps, output => do
    run limit steps (← reduce limit op position output)

theorem run_append (steps more : List (Sign × Nat)) (output : List Built) :
    run limit (steps ++ more) output = (do
      run limit more (← run limit steps output)) := by
  fun_induction run limit steps output with
  | case1 => rfl
  | case2 _ _ _ _ ih => exact ih
  | case3 op position steps output ih =>
    rw [List.cons_append, run, bind_assoc]
    exact bind_congr ih

section Reading

theorem settled_atom (pending : List Entry) : Settled Level.atom.rank pending := by
  rcases pending with _ | ⟨_ | ⟨op, _⟩, _⟩
  · trivial
  · trivial
  · change op.precedence < Level.atom.rank
    rcases op with (_ | _) | (_ | _ | _) <;> decide

/-- Reading the tokens and settling to the level carries out the steps above looser operators. -/
def Performs (limit : Nat) (level : Level) (position : Nat) (tokens : List String)
    (steps : List (Sign × Nat)) : Prop :=
  ∀ s : Stacks, Settled level.rank s.pending →
    (do
      let t ← pushAll limit s position tokens
      settle limit level.rank t.pending t.output) = (do
      let output ← run limit steps s.output
      return ⟨s.pending, output⟩)

variable {position : Nat} {tokens lefts rights : List String} {steps more : List (Sign × Nat)}

theorem performs_operand {token : String} (h : token ∉ symbols) :
    Performs limit .atom position [token] [(.operand token, position)] := by
  intro s hs
  rw [pushAll_singleton, push_operand h, ok_bind, settle_of_settled hs]
  rfl

theorem pushAll_of_performs (h : Performs limit .atom position tokens steps) (s : Stacks) :
    pushAll limit s position tokens = (do
      let output ← run limit steps s.output
      return ⟨s.pending, output⟩) := by
  have hpure : (fun t : Stacks => settle limit Level.atom.rank t.pending t.output) = pure :=
    funext fun t => settle_of_settled (settled_atom t.pending) t.output
  rw [← h s (settled_atom s.pending), hpure]
  exact (bind_pure _).symm

theorem performs_of_pushAll (h : ∀ s : Stacks, pushAll limit s position tokens = (do
      let output ← run limit steps s.output
      return ⟨s.pending, output⟩)) : Performs limit .atom position tokens steps := by
  intro s hs
  rw [h s, bind_assoc]
  exact bind_congr fun output => settle_of_settled hs output

theorem performs_beside (hl : Performs limit .atom position lefts steps)
    (hr : Performs limit .atom (position + lefts.length) rights more) :
    Performs limit .atom position (lefts ++ rights) (steps ++ more) := by
  apply performs_of_pushAll
  intro s
  rw [pushAll_append, pushAll_of_performs hl, bind_assoc, run_append, bind_assoc]
  exact bind_congr fun output => pushAll_of_performs hr ⟨s.pending, output⟩

theorem push_right_of_performs (h : Performs limit .disjunction position tokens steps)
    {s : Stacks} (hs : Settled Level.disjunction.rank s.pending) (closing : Nat) :
    (do push limit (← pushAll limit s position tokens) ")" closing) = (do
      push limit ⟨s.pending, ← run limit steps s.output⟩ ")" closing) := by
  rw [← pushAll_bind_right .disjunction, h s hs, bind_assoc]
  rfl

theorem finish_of_performs (h : Performs limit .disjunction position tokens steps)
    {s : Stacks} (hs : Settled Level.disjunction.rank s.pending) :
    (do finish limit (← pushAll limit s position tokens)) = (do
      finish limit ⟨s.pending, ← run limit steps s.output⟩) := by
  rw [← pushAll_bind_finish .disjunction, h s hs, bind_assoc]
  rfl

theorem performs_group (h : Performs limit .disjunction (position + 1) tokens steps) :
    Performs limit .atom position ("(" :: tokens ++ [")"]) steps := by
  apply performs_of_pushAll
  intro s
  let opened : Stacks := ⟨.leftParenthesis position :: s.pending, s.output⟩
  change pushAll limit opened (position + 1) (tokens ++ [")"]) = _
  have hright := push_right_of_performs h (show Settled _ opened.pending from trivial)
    (position + 1 + tokens.length)
  simp only [pushAll_append, pushAll_singleton]
  rw [hright]
  rfl

theorem performs_single {level : Level} (h : Performs limit level.link position tokens steps) :
    Performs limit level position tokens steps := by
  intro s hs
  rw [← pushAll_bind_settle level.rank_le_link, h s (hs.mono level.rank_le_link), bind_assoc]
  exact bind_congr fun output => settle_of_settled hs output

theorem performs_chain {level : Level} {token : String} {op : Operator} (hj : Joins level token op)
    (hl : Performs limit level position lefts steps)
    (hr : Performs limit level.link (position + lefts.length + 1) rights more) :
    Performs limit level position (lefts ++ token :: rights)
      (steps ++ more ++ [(.operator op, position + lefts.length)]) := by
  intro s hs
  let waiting : List Entry := .operator op (position + lefts.length) :: s.pending
  have hwaiting : Settled level.link.rank waiting := by
    change op.precedence < level.link.rank
    rw [hj.precedence_eq]
    exact hj.rank_lt_link
  have hpush (output : List Built) :
      push limit ⟨s.pending, output⟩ token (position + lefts.length) = .ok ⟨waiting, output⟩ := by
    rw [push_joining hj, settle_of_settled hs]
    rfl
  have hread : pushAll limit s position (lefts ++ token :: rights) = (do
      let output ← run limit steps s.output
      pushAll limit ⟨waiting, output⟩ (position + lefts.length + 1) rights) := by
    have hleft : pushAll limit s position (lefts ++ token :: rights) = (do
        let t ← (do
          let t ← pushAll limit s position lefts
          settle limit level.rank t.pending t.output)
        let u ← push limit t token (position + lefts.length)
        pushAll limit u (position + lefts.length + 1) rights) := by
      rw [pushAll_append, bind_assoc]
      refine bind_congr fun t => ?_
      rw [← bind_assoc, settle_bind_joining hj, pushAll]
    rw [hleft, hl s hs, bind_assoc]
    refine bind_congr fun output => ?_
    change (do
      let u ← push limit ⟨s.pending, output⟩ token (position + lefts.length)
      pushAll limit u (position + lefts.length + 1) rights) = _
    rw [hpush]
    rfl
  rw [← pushAll_bind_settle level.rank_le_link, hread, run_append, run_append]
  simp only [bind_assoc]
  refine bind_congr fun output => ?_
  rw [← bind_assoc, hr ⟨waiting, output⟩ hwaiting, bind_assoc]
  refine bind_congr fun output => ?_
  change settle limit level.rank waiting output = _
  rw [settle, if_neg (by rw [hj.precedence_eq]; exact Nat.lt_irrefl _), run, bind_assoc]
  exact bind_congr fun output => settle_of_settled hs output

/-- Reading what is arranged carries out its signs. -/
theorem exists_performs {level : Level} {signs : List Sign} (h : Arranges level tokens signs)
    (position : Nat) :
    ∃ steps : List (Sign × Nat), steps.map (·.1) = signs ∧
      ∀ limit, Performs limit level position tokens steps := by
  induction h generalizing position with
  | nothing => exact ⟨[], rfl, fun limit => performs_of_pushAll fun _ => rfl⟩
  | operand ht => exact ⟨_, rfl, fun limit => performs_operand ht⟩
  | group _ ih =>
    obtain ⟨steps, hsteps, h⟩ := ih (position + 1)
    exact ⟨steps, hsteps, fun limit => performs_group (h limit)⟩
  | @beside lefts _ _ _ _ _ ihl ihr =>
    obtain ⟨steps, hsteps, hl⟩ := ihl position
    obtain ⟨more, hmore, hr⟩ := ihr (position + lefts.length)
    exact ⟨steps ++ more, by rw [List.map_append, hsteps, hmore],
      fun limit => performs_beside (hl limit) (hr limit)⟩
  | single _ ih =>
    obtain ⟨steps, hsteps, h⟩ := ih position
    exact ⟨steps, hsteps, fun limit => performs_single (h limit)⟩
  | @chain _ lefts _ _ _ _ _ hj _ _ ihl ihr =>
    obtain ⟨steps, hsteps, hl⟩ := ihl position
    obtain ⟨more, hmore, hr⟩ := ihr (position + lefts.length + 1)
    exact ⟨_, by rw [List.map_append, List.map_append, hsteps, hmore]; rfl,
      fun limit => performs_chain hj (hl limit) (hr limit)⟩

end Reading

section Signs

def spelled : List Built → List Sign
  | [] => []
  | built :: output => spelled output ++ built.tree.polish

theorem spelled_of_run {steps : List (Sign × Nat)} {output left : List Built}
    (h : run limit steps output = .ok left) :
    spelled output ++ steps.map (·.1) = spelled left := by
  fun_induction run limit steps output with
  | case1 output =>
    cases h
    exact List.append_nil _
  | case2 text position steps output ih =>
    rw [← ih h, List.map_cons]
    simp [spelled, Expression.polish]
  | case3 op position steps output ih =>
    obtain ⟨reduced, hr, h⟩ := bind_eq_ok_iff.mp h
    rw [← ih reduced h, List.map_cons]
    rcases output with _ | ⟨right, _ | ⟨first, output⟩⟩
    · cases hr
    · cases hr
    · simp only [reduce] at hr
      split at hr
      · cases hr
      · cases hr
        simp [spelled, Expression.polish]

/-- Signs that spell a tree leave it, unless it is too deep. -/
theorem run_of_polish {e : Expression} {steps : List (Sign × Nat)}
    (h : steps.map (·.1) = e.polish) (output : List Built) :
    run limit steps output =
      if e.depth ≤ max 1 limit then .ok (⟨e, e.depth⟩ :: output)
      else .error (.treeTooDeep limit) := by
  induction e generalizing steps output with
  | operand text =>
    obtain ⟨⟨_, position⟩, rfl, rfl⟩ := List.map_eq_singleton_iff.mp h
    rw [if_pos (show (Expression.operand text).depth ≤ _ from Nat.le_max_left 1 limit)]
    rfl
  | binary op left right ihl ihr =>
    obtain ⟨both, last, rfl, hboth, hlast⟩ := List.map_eq_append_iff.mp h
    obtain ⟨lefts, rights, rfl, hlefts, hrights⟩ := List.map_eq_append_iff.mp hboth
    obtain ⟨⟨_, position⟩, rfl, rfl⟩ := List.map_eq_singleton_iff.mp hlast
    rw [run_append, run_append, ihl hlefts]
    by_cases hl : left.depth ≤ max 1 limit
    · rw [if_pos hl, ok_bind, ihr hrights]
      by_cases hr : right.depth ≤ max 1 limit
      · rw [if_pos hr, ok_bind]
        change (reduce limit op position _ >>= fun output => run limit [] output) = _
        rw [reduce_eq]
        split <;> rfl
      · have hlt := Nat.lt_of_not_le hr
        rw [if_neg hr, if_neg (Nat.not_le_of_lt (Nat.lt_trans hlt (right_lt_depth ..)))]
        rfl
    · have hlt := Nat.lt_of_not_le hl
      rw [if_neg hl, if_neg (Nat.not_le_of_lt (Nat.lt_trans hlt (left_lt_depth ..)))]
      rfl

end Signs

section Delivery

variable {level : Level} {tokens : List String} {e : Expression}

/-- The tree comes on top of the output, unless it is a joined tree of more than the depth. -/
def deliver (limit : Nat) (e : Expression) (s : Stacks) : Except Fault Stacks :=
  if e.depth ≤ max 1 limit then return ⟨s.pending, ⟨e, e.depth⟩ :: s.output⟩
  else throw (.treeTooDeep limit)

theorem deliver_of_le {e : Expression} (h : e.depth ≤ max 1 limit) (s : Stacks) :
    deliver limit e s = .ok ⟨s.pending, ⟨e, e.depth⟩ :: s.output⟩ := if_pos h

theorem deliver_of_lt {e : Expression} (h : max 1 limit < e.depth) (s : Stacks) :
    deliver limit e s = .error (.treeTooDeep limit) := if_neg (Nat.not_le_of_lt h)

/-- Reading what comes to the signs of one tree and settling to its rank delivers the tree. -/
theorem pushAll_of_arranges (h : Arranges level tokens e.polish) (s : Stacks) (position : Nat)
    (hs : Settled level.rank s.pending) :
    (do
      let t ← pushAll limit s position tokens
      settle limit level.rank t.pending t.output) = deliver limit e s := by
  obtain ⟨steps, hsteps, hp⟩ := exists_performs h position
  rw [hp limit s hs, run_of_polish hsteps, deliver]
  split <;> rfl

theorem finish_pushAll_of_arranges (h : Arranges .disjunction tokens e.polish) (limit : Nat) :
    (do finish limit (← pushAll limit .empty 0 tokens)) =
      if e.depth ≤ max 1 limit then .ok e else .error (.treeTooDeep limit) := by
  rw [← pushAll_bind_finish .disjunction, pushAll_of_arranges h .empty 0 trivial]
  by_cases hd : e.depth ≤ max 1 limit
  · rw [deliver_of_le hd, if_pos hd]
    rfl
  · rw [deliver_of_lt (Nat.lt_of_not_le hd), if_neg hd]
    rfl

theorem parse_of_arranges (h : Arranges .disjunction tokens e.polish) (limit : Nat) :
    parse limit tokens =
      if e.depth ≤ max 1 (min limit Expression.depthLimit) then .ok e
      else .error (.treeTooDeep (min limit Expression.depthLimit)) :=
  finish_pushAll_of_arranges h (min limit Expression.depthLimit)

end Delivery

end Parser

end Rulebook

namespace Rulebook.Parser

open Grammar

theorem finish_pushAll {tokens : List String} {e : Expression}
    (h : Phrase .disjunction tokens e) (limit : Nat) :
    (do finish limit (← pushAll limit .empty 0 tokens)) =
      if e.depth ≤ max 1 limit then .ok e else .error (.treeTooDeep limit) :=
  finish_pushAll_of_arranges h.arranges limit

theorem tree_unique {tokens : List String} {e f : Expression}
    (he : Phrase .disjunction tokens e) (hf : Phrase .disjunction tokens f) : e = f := by
  have h := finish_pushAll he (max e.depth f.depth)
  rw [finish_pushAll hf, if_pos (by omega), if_pos (by omega)] at h
  exact (Except.ok.inj h).symm

/-- A disjunction is parsed as the one tree of the grammar, up to the depth limit. -/
theorem parse_disjunction {tokens : List String} {e : Expression}
    (h : Phrase .disjunction tokens e) :
    (∀ f, Phrase .disjunction tokens f → f = e) ∧
      ∀ limit, parse limit tokens =
        if e.depth ≤ max 1 (min limit 100) then .ok e
        else .error (.treeTooDeep (min limit 100)) :=
  ⟨fun _ hf => tree_unique hf h, fun limit => finish_pushAll h (min limit 100)⟩

theorem parse_disjunction_grouped :
    let tokens := ["(", "a", "OR", "b", ")", "AND", "c", ">", "1"]
    let e := Expression.binary (.connective .and)
      (.binary (.connective .or) (.operand "a") (.operand "b"))
      (.binary (.relation .greater) (.operand "c") (.operand "1"))
    Phrase .disjunction tokens e ∧ parse 3 tokens = .ok e ∧
      parse 2 tokens = .error (.treeTooDeep 2) := by
  intro tokens e
  have leaf {token : String} (h : token ∉ symbols) (level : Level) :
      Phrase level [token] (.operand token) := (Phrase.operand h).of_atom level
  have hor : Phrase .disjunction (["a"] ++ "OR" :: ["b"]) _ :=
    .chain .or (leaf (by decide) _) (leaf (by decide) _)
  have hgreater : Phrase .comparison (["c"] ++ ">" :: ["1"]) _ :=
    .chain .greater (leaf (by decide) _) (leaf (by decide) _)
  have hand : Phrase .conjunction (["(", "a", "OR", "b", ")"] ++ "AND" :: ["c", ">", "1"]) e :=
    .chain .and ((Phrase.group hor).of_atom _) hgreater
  have h : Phrase .disjunction tokens e := .single hand
  exact ⟨h, (parse_disjunction h).2 3, (parse_disjunction h).2 2⟩

end Rulebook.Parser
