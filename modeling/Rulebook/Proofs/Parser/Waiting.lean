import Mathlib.Data.List.Chain
import Mathlib.Data.List.Perm.Subperm
import Rulebook.Proofs.Parser.Output

/-! # What waits

An operator comes to wait on top of a left parenthesis or of an operator that binds less tightly.
So between parentheses the operators bind more and more tightly from the bottom of the stack to
its top, and no more than three can wait there. Every entry names the token at its position, and
positions rise from the bottom to the top.
-/

namespace Rulebook.Parser

open Grammar

namespace Entry

def position : Entry → Nat
  | leftParenthesis p => p
  | operator _ p => p

def symbol : Entry → String
  | leftParenthesis _ => "("
  | operator op _ => op.symbol

def Outbinds : Entry → Entry → Prop
  | operator op _, operator below _ => below.precedence < op.precedence
  | _, _ => True

end Entry

/-- The entries, the top one first, may wait after the tokens. -/
structure Waiting (tokens : List String) (pending : List Entry) : Prop where
  spelled : ∀ entry ∈ pending, tokens[entry.position]? = some entry.symbol
  later : (pending.map Entry.position).Pairwise (· > ·)
  tighter : pending.IsChain Entry.Outbinds

section Waiting

variable {limit floor : Nat} {token : String} {tokens more : List String} {s t : Stacks}
  {pending rest : List Entry} {entry : Entry} {op : Operator}

theorem waiting_nil : Waiting tokens [] where
  spelled := by simp
  later := .nil
  tighter := .nil

theorem Waiting.suffix (h : Waiting tokens pending) (hr : rest <:+ pending) :
    Waiting tokens rest where
  spelled entry he := h.spelled entry (hr.subset he)
  later := h.later.sublist (hr.map _).sublist
  tighter := h.tighter.suffix hr

theorem Waiting.position_lt (h : Waiting tokens pending) (he : entry ∈ pending) :
    entry.position < tokens.length :=
  (List.getElem?_eq_some_iff.mp (h.spelled entry he)).1

theorem Waiting.append (h : Waiting tokens pending) (more : List String) :
    Waiting (tokens ++ more) pending where
  spelled entry he := by
    rw [List.getElem?_append_left (h.position_lt he)]
    exact h.spelled entry he
  later := h.later
  tighter := h.tighter

theorem Waiting.push (h : Waiting tokens pending) (entry : Entry)
    (hp : entry.position = tokens.length)
    (htop : ∀ below ∈ pending.head?, entry.Outbinds below) :
    Waiting (tokens ++ [entry.symbol]) (entry :: pending) where
  spelled := by
    rw [List.forall_mem_cons]
    exact ⟨by simp [hp], (h.append _).spelled⟩
  later := by
    simp only [List.map_cons, List.pairwise_cons, List.forall_mem_map]
    exact ⟨fun below hb => hp ▸ h.position_lt hb, h.later⟩
  tighter := List.isChain_cons.mpr ⟨htop, h.tighter⟩

theorem symbol_of_ofSymbol? (h : Operator.ofSymbol? token = some op) : op.symbol = token := by
  simp only [Operator.ofSymbol?, Connective.ofSymbol?, Relation.ofSymbol?] at h
  grind [Operator.symbol, Connective.symbol, Relation.symbol]

theorem settle_suffix {output : List Built} (h : settle limit floor pending output = .ok s) :
    s.pending <:+ pending ∧ Settled floor s.pending := by
  fun_induction settle limit floor pending output with
  | case1 op p pending output hlt =>
    cases h
    exact ⟨List.suffix_rfl, hlt⟩
  | case2 op p pending output hge ih =>
    obtain ⟨reduced, -, h⟩ := bind_eq_ok_iff.mp h
    obtain ⟨hsuffix, hsettled⟩ := ih reduced h
    exact ⟨hsuffix.trans (List.suffix_cons _ _), hsettled⟩
  | case3 pending output hne =>
    cases h
    refine ⟨List.suffix_rfl, ?_⟩
    rcases pending with _ | ⟨_ | ⟨op, p⟩, pending⟩
    · trivial
    · trivial
    · exact absurd rfl (hne op p pending)

theorem Settled.outbinds {position : Nat} (h : Settled op.precedence pending) :
    ∀ below ∈ pending.head?, (Entry.operator op position).Outbinds below := by
  rcases pending with _ | ⟨_ | _, _⟩
  · simp
  · simp [Entry.Outbinds]
  · simpa [Entry.Outbinds, Settled] using h

theorem push_waiting (hs : Waiting tokens s.pending)
    (h : push limit s token tokens.length = .ok t) : Waiting (tokens ++ [token]) t.pending := by
  unfold push at h
  split at h
  · next hl =>
    cases h
    subst hl
    exact hs.push (.leftParenthesis _) rfl (by simp [Entry.Outbinds])
  split at h
  · rw [closeParenthesis_eq_settle] at h
    obtain ⟨u, hu, h⟩ := bind_eq_ok_iff.mp h
    split at h
    · next hrest =>
      cases h
      have hsuffix := (settle_suffix hu).1
      rw [hrest] at hsuffix
      exact (hs.suffix ((List.suffix_cons _ _).trans hsuffix)).append _
    · cases h
  split at h
  · next op hop =>
    rw [pushOperator_eq_settle] at h
    obtain ⟨u, hu, h⟩ := bind_eq_ok_iff.mp h
    cases h
    obtain ⟨hsuffix, hsettled⟩ := settle_suffix hu
    rw [← symbol_of_ofSymbol? hop]
    exact (hs.suffix hsuffix).push (.operator op _) rfl hsettled.outbinds
  · cases h
    exact hs.append _

theorem pushAll_waiting (hs : Waiting tokens s.pending)
    (h : pushAll limit s tokens.length more = .ok t) : Waiting (tokens ++ more) t.pending := by
  induction more generalizing tokens s with
  | nil =>
    cases h
    simpa using hs
  | cons token more ih =>
    rw [pushAll] at h
    obtain ⟨u, hu, h⟩ := bind_eq_ok_iff.mp h
    have hu := push_waiting hs hu
    simpa using ih hu (by simpa using h)

end Waiting

section Segments

variable {limit : Nat} {tokens : List String} {s : Stacks} {pending : List Entry}
  {ops : List (Operator × Nat)}

/-- Operators with no parenthesis between them bind more tightly the higher they stand. -/
theorem Waiting.pairwise_precedence (h : Waiting tokens pending)
    (hops : ops.map (fun o => .operator o.1 o.2) <:+: pending) :
    (ops.map fun o => o.1.precedence).Pairwise (· > ·) := by
  have hchain := h.tighter.infix hops
  rw [List.isChain_map] at hchain
  rw [← List.isChain_iff_pairwise, List.isChain_map]
  exact hchain

theorem precedence_mem (op : Operator) : op.precedence ∈ [1, 2, 3] := by
  rcases op with (_ | _) | _ <;> simp [Operator.precedence]

theorem length_le_three (h : (ops.map fun o => o.1.precedence).Pairwise (· > ·)) :
    ops.length ≤ 3 := by
  have hnodup : (ops.map fun o => o.1.precedence).Nodup := h.imp Nat.ne_of_gt
  have hsubset : (ops.map fun o => o.1.precedence) ⊆ [1, 2, 3] := by
    simp only [List.subset_def, List.mem_map, forall_exists_index, and_imp]
    rintro _ o - rfl
    exact precedence_mem o.1
  simpa using (List.subperm_of_subset hnodup hsubset).length_le

/-- Waiting operators bind ever more tightly towards the top, and built trees know their depth. -/
theorem stacks_of_pushAll (h : pushAll (min limit 100) .empty 0 tokens = .ok s) :
    (∀ ops : List (Operator × Nat), ops.map (fun o => .operator o.1 o.2) <:+: s.pending →
      ops.Pairwise (fun o below => below.1.precedence < o.1.precedence) ∧ ops.length ≤ 3) ∧
    (s.pending.map Entry.position).Pairwise (· > ·) ∧
    ∀ built ∈ s.output,
      built.depth = built.tree.depth ∧ built.depth ≤ max 1 (min limit 100) := by
  have hempty : Waiting [] Stacks.empty.pending := waiting_nil
  have hw : Waiting tokens s.pending := pushAll_waiting hempty h
  refine ⟨?_, hw.later, ?_⟩
  · intro ops hops
    have hpairwise := hw.pairwise_precedence hops
    exact ⟨List.pairwise_map.mp hpairwise, length_le_three hpairwise⟩
  · intro built hb
    have hsound := pushAll_output (sound_keptByJoins (min limit 100) tokens)
      (fun _ => sound_operand) h (by simp [Stacks.empty]) built hb
    exact ⟨hsound.depth_eq.symm, hsound.depth_le⟩

theorem stacks_of_pushAll_segments :
    let tokens := ["a", ">", "b", "OR", "(", "c", "OR", "d", ">", "e", "AND", "f", ">"]
    let ops : List (Operator × Nat) :=
      [(.relation .greater, 12), (.connective .and, 10), (.connective .or, 6)]
    let pending : List Entry := ops.map (fun o => .operator o.1 o.2) ++
      [.leftParenthesis 4, .operator (.connective .or) 3]
    let joined (left right : String) : Built :=
      ⟨.binary (.relation .greater) (.operand left) (.operand right), 2⟩
    let output : List Built :=
      [⟨.operand "f", 1⟩, joined "d" "e", ⟨.operand "c", 1⟩, joined "a" "b"]
    pushAll (min 2 100) .empty 0 tokens = .ok ⟨pending, output⟩ ∧
      (ops.map (fun o => .operator o.1 o.2) <:+: pending ∧
        ops.Pairwise (fun o below => below.1.precedence < o.1.precedence) ∧ ops.length ≤ 3) ∧
      (pending.map Entry.position).Pairwise (· > ·) ∧
      ∀ built ∈ output, built.depth = built.tree.depth ∧ built.depth ≤ 2 := by
  intro tokens ops pending joined output
  have h : pushAll (min 2 100) .empty 0 tokens = .ok ⟨pending, output⟩ := by rfl
  have hops : ops.map (fun o => .operator o.1 o.2) <:+: pending :=
    (List.prefix_append _ _).isInfix
  obtain ⟨hsegments, hpositions, hdepths⟩ := stacks_of_pushAll h
  exact ⟨h, ⟨hops, hsegments ops hops⟩, hpositions, hdepths⟩

end Segments

end Rulebook.Parser
