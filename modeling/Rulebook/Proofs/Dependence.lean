import Mathlib.Data.List.Basic
import Rulebook.Rule.Compiler
import Rulebook.Proofs.Evaluation
import Rulebook.Proofs.Json.Members

/-! # Dependence on a record

A rule looks up the name of every leaf that is no number. Its fields are these names but for the
empty one, which two leaves have: a quote alone and a pair of quotes. Records that agree on the
fields of a rule and on the empty name are therefore never told apart. If they agree on the
fields only, a trace shows the difference as soon as there is such a leaf.
-/

namespace Rulebook

namespace Json

variable {key name : String} {members : List (String × Json)}

theorem lookup_filter_ne :
    lookup name (members.filter (·.1 ≠ key)) =
      if key = name then none else lookup name members := by
  induction members with
  | nil => split <;> rfl
  | cons member members ih =>
    obtain ⟨k, v⟩ := member
    by_cases hk : k = key
    · rw [List.filter_cons_of_neg (by simpa using hk), ih, lookup, hk]
      split <;> rfl
    · rw [List.filter_cons_of_pos (by simpa using hk), lookup, lookup, ih]
      by_cases hname : k = name
      · rw [if_pos hname, if_pos hname, if_neg fun h => hk (hname.trans h.symm)]
      · rw [if_neg hname, if_neg hname]

end Json

namespace Record

/-- The records hold the same under each of the names, or nothing both. -/
def AgreeOn (names : List String) (a b : Record) : Prop :=
  ∀ name ∈ names, a.field? name = b.field? name

def withField (record : Record) (name : String) (value : Option Json) : Record :=
  let others := record.members.filter (·.1 ≠ name)
  match value with
  | some json => ⟨Json.insertMember name json others⟩
  | none => ⟨others⟩

variable {record : Record} {name other : String} {value : Option Json}

theorem field?_withField :
    (record.withField name value).field? other =
      if name = other then value else record.field? other := by
  cases value with
  | none => exact Json.lookup_filter_ne
  | some json =>
    refine Json.lookup_insertMember.trans ?_
    rw [Json.lookup_filter_ne]
    split <;> rfl

end Record

namespace Operand

open Numeral

variable {a b : Record} {text name : String}

/-- Quotes without anything between them. -/
def IsHollow (text : String) : Prop := text = "'" ∨ text = "''"

theorem dropQuote_eq_iff {cs ds : List Char} :
    stripQuotes.dropQuote cs = ds ↔ cs = '\'' :: ds ∨ cs = ds ∧ ds.head? ≠ some '\'' := by
  unfold stripQuotes.dropQuote
  split
  · next cs =>
    constructor
    · rintro rfl
      exact .inl rfl
    · rintro (h | ⟨rfl, h⟩)
      · exact (List.cons.inj h).2
      · exact absurd rfl h
  · next hcs =>
    constructor
    · rintro rfl
      refine .inr ⟨rfl, fun h => ?_⟩
      obtain ⟨ds, rfl⟩ := List.head?_eq_some_iff.mp h
      exact hcs ds rfl
    · rintro (h | ⟨rfl, -⟩)
      · exact (hcs ds h).elim
      · rfl

theorem stripQuotes_eq_empty_iff : stripQuotes text = "" ↔ text = "" ∨ IsHollow text := by
  constructor
  · intro h
    have hl : stripQuotes.dropQuote (stripQuotes.dropQuote text.toList).reverse = [] := by
      simpa [stripQuotes] using congrArg String.toList h
    rcases dropQuote_eq_iff.mp hl with h | ⟨h, -⟩
    · rcases dropQuote_eq_iff.mp (List.reverse_eq_iff.mp h) with h | ⟨-, h⟩
      · exact .inr (.inr (String.toList_inj.mp h))
      · exact absurd rfl h
    · rcases dropQuote_eq_iff.mp (List.reverse_eq_nil_iff.mp h) with h | ⟨h, -⟩
      · exact .inr (.inl (String.toList_inj.mp h))
      · exact .inl (String.toList_inj.mp h)
  · rintro (rfl | rfl | rfl) <;> rfl

theorem isHollow_iff : IsHollow text ↔ literal? text = none ∧ stripQuotes text = "" := by
  constructor
  · intro h
    refine ⟨?_, stripQuotes_eq_empty_iff.mpr (.inr h)⟩
    rcases h with rfl | rfl <;> rfl
  · rintro ⟨hn, h⟩
    rcases stripQuotes_eq_empty_iff.mp h with rfl | h
    · exact nomatch hn
    · exact h

theorem fieldName?_eq_some_iff :
    fieldName? text = some name ↔ literal? text = none ∧ stripQuotes text = name ∧ name ≠ "" := by
  rw [fieldName?]
  cases literal? text with
  | some x => simp
  | none =>
    dsimp only
    split
    · next h =>
      rw [String.isEmpty_iff] at h
      simp [h]
    · next h =>
      rw [String.isEmpty_iff] at h
      simp only [Option.some.injEq, true_and]
      exact ⟨fun hname => ⟨hname, hname ▸ h⟩, And.left⟩

theorem value_congr (h : literal? text = none →
    a.field? (stripQuotes text) = b.field? (stripQuotes text)) : value a text = value b text := by
  rw [value, value, resolve, resolve]
  cases hn : literal? text with
  | some x => rfl
  | none => simp only [h hn]

theorem value_withField (h : IsHollow text) (json : Json) :
    value (a.withField "" (some json)) text = .ofJson json := by
  obtain ⟨hn, hname⟩ := isHollow_iff.mp h
  rw [value, resolve, hn, hname]
  simp only [Record.field?_withField, if_pos]
  rfl

end Operand

namespace Expression

variable {a b : Record} {e : Expression}

theorem mem_insertName_iff {name other : String} {names : List String} :
    name ∈ insertName other names ↔ name = other ∨ name ∈ names := by
  induction names with
  | nil => simp [insertName]
  | cons n names ih =>
    rw [insertName]
    split
    · exact List.mem_cons
    · split
      · next h =>
        subst h
        simp
      · rw [List.mem_cons, ih, List.mem_cons]
        exact or_left_comm

theorem mem_fields_iff {name : String} :
    name ∈ e.fields ↔ ∃ text ∈ e.operands, Operand.fieldName? text = some name := by
  have hfold (names : List String) : name ∈ names.foldr insertName [] ↔ name ∈ names := by
    induction names with
    | nil => rfl
    | cons n names ih => rw [List.foldr_cons, mem_insertName_iff, ih, List.mem_cons]
  rw [fields, hfold, List.mem_filterMap]

/-- The expression comes to the same on both records, with the same trace if there is one. -/
def SameOn (e : Expression) (a b : Record) : Prop :=
  e.evaluate a = e.evaluate b ∧ ∀ tracing, execute tracing a e = execute tracing b e

/-- Some leaf is nothing but quotes. -/
def HasHollow (e : Expression) : Prop := ∃ text ∈ e.operands, Operand.IsHollow text

theorem sameOn_of_value (h : ∀ text ∈ e.operands, Operand.value a text = Operand.value b text) :
    e.SameOn a b := by
  refine ⟨?_, fun tracing => ?_⟩
  · rw [← walk_value none e [], ← walk_value none e [], walk_congr h]
  · rw [execute, execute, walk_congr h]

theorem sameOn_of_agreeOn (h : Record.AgreeOn e.fields a b)
    (hempty : e.HasHollow → a.field? "" = b.field? "") : e.SameOn a b := by
  refine sameOn_of_value fun text ht => Operand.value_congr fun hn => ?_
  by_cases hname : Operand.stripQuotes text = ""
  · rw [hname]
    exact hempty ⟨text, ht, Operand.isHollow_iff.mpr ⟨hn, hname⟩⟩
  · exact h _ (mem_fields_iff.mpr
      ⟨text, ht, Operand.fieldName?_eq_some_iff.mpr ⟨hn, rfl, hname⟩⟩)

theorem empty_notMem_fields : "" ∉ e.fields := by
  intro h
  obtain ⟨text, -, hname⟩ := mem_fields_iff.mp h
  exact (Operand.fieldName?_eq_some_iff.mp hname).2.2 rfl

theorem agreeOn_withField (a : Record) (value : Option Json) :
    Record.AgreeOn e.fields a (a.withField "" value) := by
  intro name hname
  rw [Record.field?_withField, if_neg]
  rintro rfl
  exact empty_notMem_fields hname

/-- Records on which an expression comes to the same value show the same at every leaf. -/
theorem display_eq_of_sameOn (h : e.SameOn a b) {v : Value} (hv : e.evaluate a = .ok v) :
    ∀ text ∈ e.operands, (Operand.value a text).display = (Operand.value b text).display := by
  obtain ⟨lines, ha⟩ := exists_walk_of_evaluate hv (some "root")
  obtain ⟨lines', hb⟩ := exists_walk_of_evaluate (h.1 ▸ hv) (some "root")
  have hexec := h.2 true
  rw [execute_of_walk ha, execute_of_walk hb] at hexec
  obtain ⟨-, hlines⟩ := Outcome.mk.inj (Except.ok.inj hexec)
  obtain rfl := List.reverse_inj.mp hlines
  exact (display_eq_of_walk ha hb).2

/-- Where an expression has a value, a leaf of quotes alone shows the field of the empty name. -/
theorem exists_not_sameOn (h : e.HasHollow) {v : Value} (hv : e.evaluate a = .ok v) :
    ∃ value, ¬ e.SameOn a (a.withField "" value) := by
  obtain ⟨text, ht, hollow⟩ := h
  refine ⟨some (.text ((Operand.value a text).display ++ "'")), fun hsame => ?_⟩
  have hshown := display_eq_of_sameOn hsame hv text ht
  rw [Operand.value_withField hollow] at hshown
  have hlength := congrArg String.length hshown
  simp [Value.ofJson, Value.display] at hlength

/-- Records that agree on the fields of a rule and on the empty name are never told apart. -/
theorem fields_decide_outcome (r : Rule) :
    (∀ a b : Record, Record.AgreeOn ("" :: r.fields) a b → r.root.SameOn a b) ∧
    ((∀ a b : Record, Record.AgreeOn r.fields a b → r.root.SameOn a b) ↔
      ("'" ∉ r.root.operands ∧ "''" ∉ r.root.operands) ∨
      ∀ (a : Record) (value : Option Json), ∃ fault, r.root.evaluate a = .error fault ∧
        r.root.evaluate (a.withField "" value) = .error fault) := by
  have hall {a b : Record} (h : Record.AgreeOn ("" :: r.fields) a b) : r.root.SameOn a b :=
    sameOn_of_agreeOn (fun name hm => h name (List.mem_cons_of_mem _ hm))
      fun _ => h "" List.mem_cons_self
  refine ⟨fun a b => hall, ?_, ?_⟩
  · intro hfields
    by_cases hollow : r.root.HasHollow
    · right
      intro a value
      have hsame := hfields a (a.withField "" value) (agreeOn_withField a value)
      cases hv : r.root.evaluate a with
      | ok v =>
        obtain ⟨value, hne⟩ := exists_not_sameOn hollow hv
        exact absurd (hfields _ _ (agreeOn_withField a value)) hne
      | error fault => exact ⟨fault, rfl, hsame.1 ▸ hv⟩
    · left
      exact ⟨fun hm => hollow ⟨_, hm, .inl rfl⟩, fun hm => hollow ⟨_, hm, .inr rfl⟩⟩
  · rintro (⟨hone, htwo⟩ | hfault) a b h
    · refine sameOn_of_agreeOn h ?_
      rintro ⟨text, hm, rfl | rfl⟩
      · exact absurd hm hone
      · exact absurd hm htwo
    · -- The first record with the empty name as in the second one lies between the two.
      let c := a.withField "" (b.field? "")
      obtain ⟨fault, ha, hc⟩ := hfault a (b.field? "")
      have hcb : r.root.SameOn c b := by
        refine hall fun name hm => ?_
        rw [Record.field?_withField]
        rcases List.mem_cons.mp hm with rfl | hm
        · rw [if_pos rfl]
        · rw [if_neg fun hname => empty_notMem_fields (hname ▸ hm)]
          exact h name hm
      have hb : r.root.evaluate b = .error fault := hcb.1 ▸ hc
      refine ⟨ha.trans hb.symm, fun tracing => ?_⟩
      rw [execute_of_fault ha, execute_of_fault hb]

theorem fields_decide_outcome_sales :
    let r : Rule := ⟨"dept == 'Sales'",
      .binary (.relation .equal) (.operand "dept") (.operand "'Sales'")⟩
    let a : Record := ⟨[("", .null), ("dept", .text "Sales")]⟩
    let b : Record := ⟨[("age", .bool true), ("dept", .text "Sales")]⟩
    Compiler.compile {} "dept == 'Sales'" = .ok r ∧ Record.AgreeOn r.fields a b ∧
      r.root.evaluate a = .ok (.bool true) ∧ r.root.SameOn a b := by
  intro r a b
  have hagree : Record.AgreeOn r.fields a b := by
    intro name hm
    have hfields : r.fields = ["Sales", "dept"] := by rfl
    rw [hfields] at hm
    rcases List.mem_pair.mp hm with rfl | rfl <;> rfl
  exact ⟨rfl, hagree, rfl,
    (fields_decide_outcome r).2.mpr (.inl ⟨by decide, by decide⟩) a b hagree⟩

theorem unnamed_field_decides_outcome :
    let r : Rule := ⟨"''", .operand "''"⟩
    let b : Record := ⟨[("", .integer 5)]⟩
    Compiler.compile {} "''" = .ok r ∧ r.fields = [] ∧ Record.AgreeOn r.fields .empty b ∧
      r.root.evaluate .empty = .ok (.text "") ∧
      r.root.evaluate b = .ok (.ofJson (.integer 5)) ∧ ¬ r.root.SameOn .empty b := by
  intro r b
  refine ⟨rfl, rfl, ?_, rfl, rfl, ?_⟩
  · intro name hm
    exact nomatch hm
  · intro hsame
    exact nomatch hsame.1

end Expression

end Rulebook
