import Mathlib.Data.List.Forall2
import Rulebook.Json.Document
import Rulebook.Json.Value
import Rulebook.Proofs.Sequencing

/-! # Reading what is printed

A string is escaped so that scanning it gives its characters back, and reading a printed value
inside any open containers comes to what finishing its document there comes to.
-/

namespace Rulebook.Json

def marks (cs : List Char) : List Symbol := cs.map some

variable {cs rest : List Char}

section Strings

theorem codeUnit?_control : ∀ n < 0x20,
    codeUnit? '0' '0' (hexDigit (n / 16)) (hexDigit (n % 16)) = some n := by
  decide

theorem scanString_letter {letter c : Char} (done : List (Option Nat)) (cs : List Symbol)
    (hu : letter ≠ 'u') (h : unescape letter = some c) :
    scanString done (some '\\' :: some letter :: cs) = scanString (some c.toNat :: done) cs := by
  rw [scanString]
  · simp only [h]
  · simp [hu]

theorem scanString_char {c : Char} (done : List (Option Nat)) (cs : List Symbol)
    (hq : c ≠ '"') (hb : c ≠ '\\') (hc : ¬ c.toNat < 0x20) :
    scanString done (some c :: cs) = scanString (some c.toNat :: done) cs := by
  rw [scanString]
  · rw [if_neg (by simp [hb, hc])]
  all_goals simp [hq, hb]

theorem scanString_escape (c : Char) (done : List (Option Nat)) (cs : List Char) :
    scanString done (marks (escape c ++ cs)) = scanString (some c.toNat :: done) (marks cs) := by
  unfold escape
  -- the characters that have a letter of their own
  iterate 7
    split
    · rename_i h
      subst h
      exact scanString_letter _ _ (by decide) rfl
  split
  · rename_i h
    simp only [marks, List.cons_append, List.nil_append, List.map_cons, scanString]
    rw [codeUnit?_control _ h]
  · rename_i hq hb _ _ _ _ _ hc
    exact scanString_char _ _ hq hb hc

theorem scanString_escaped (cs : List Char) (done : List (Option Nat)) (rest : List Char) :
    scanString done (marks (cs.foldr (fun c after => escape c ++ after) ('"' :: rest))) =
      some (done.reverse ++ cs.map fun c => some c.toNat, marks rest) := by
  induction cs generalizing done with
  | nil => simp [marks, scanString]
  | cons c cs ih =>
    rw [List.foldr_cons, scanString_escape, ih]
    simp

theorem joinSurrogates_cons {n : Nat} (h : isHighSurrogate n = false) (rest : List (Option Nat)) :
    joinSurrogates (some n :: rest) = joinSurrogates.symbol n :: joinSurrogates rest := by
  rcases rest with _ | ⟨_ | low, rest⟩
  · rfl
  · rfl
  · rw [joinSurrogates, h]
    rfl

theorem no_surrogate (c : Char) :
    isHighSurrogate c.toNat = false ∧ isLowSurrogate c.toNat = false := by
  have h : c.toNat < 0xd800 ∨ 0xdfff < c.toNat ∧ c.toNat < 0x110000 := c.valid
  simp only [isHighSurrogate, isLowSurrogate, Bool.and_eq_false_iff, decide_eq_false_iff_not]
  omega

theorem joinSurrogates_chars (cs : List Char) :
    joinSurrogates (cs.map fun c => some c.toNat) = marks cs := by
  induction cs with
  | nil => rfl
  | cons c cs ih =>
    obtain ⟨hh, hl⟩ := no_surrogate c
    rw [List.map_cons, joinSurrogates_cons hh, ih, joinSurrogates.symbol, hh, hl]
    simp [marks, Char.ofNat_toNat]

end Strings

section Tokens

open Token

theorem next?_writeText (text : String) (rest : List Char) :
    next? (marks (writeText text rest)) = some (.text (symbols text), marks rest) := by
  have h := scanString_escaped text.toList [] rest
  change (scanString [] (marks (text.toList.foldr _ _))).map _ = _
  rw [h, List.reverse_nil, List.nil_append, Option.map_some]
  dsimp only
  rw [joinSurrogates_chars]
  rfl

theorem next?_null (rest : List Char) :
    next? (marks ("null".toList ++ rest)) = some (.null, marks rest) := by
  rfl

theorem next?_openBrace (rest : List Char) :
    next? (marks ('\x7b' :: rest)) = some (.openBrace, marks rest) := rfl

theorem next?_closeBrace (rest : List Char) :
    next? (marks ('\x7d' :: rest)) = some (.closeBrace, marks rest) := rfl

theorem next?_bool (b : Bool) (rest : List Char) :
    next? (marks ((Json.bool b).write rest)) = some (.bool b, marks rest) := by
  cases b <;> rfl

theorem next?_openBracket (rest : List Char) :
    next? (marks ('[' :: rest)) = some (.openBracket, marks rest) := rfl

theorem next?_closeBracket (rest : List Char) :
    next? (marks (']' :: rest)) = some (.closeBracket, marks rest) := rfl

theorem next?_colon (rest : List Char) :
    next? (marks (':' :: rest)) = some (.colon, marks rest) := rfl

theorem next?_comma (rest : List Char) :
    next? (marks (',' :: rest)) = some (.comma, marks rest) := rfl

end Tokens

theorem write_array_nil (rest : List Char) : write (.array []) rest = '[' :: ']' :: rest := rfl

theorem write_array_cons (item : Json) (items : List Json) (rest : List Char) :
    write (.array (item :: items)) rest = '[' :: write item (writeItems items rest) := rfl

theorem writeItems_cons (item : Json) (items : List Json) (rest : List Char) :
    writeItems (item :: items) rest = ',' :: write item (writeItems items rest) := rfl

theorem write_object_nil (rest : List Char) :
    write (.object []) rest = '\x7b' :: '\x7d' :: rest := rfl

theorem write_object_cons (key : String) (value : Json) (members : List (String × Json))
    (rest : List Char) :
    write (.object ((key, value) :: members)) rest =
      '\x7b' :: writeText key (':' :: write value (writeMembers members rest)) := rfl

theorem writeMembers_cons (key : String) (value : Json) (members : List (String × Json))
    (rest : List Char) :
    writeMembers ((key, value) :: members) rest =
      ',' :: writeText key (':' :: write value (writeMembers members rest)) := rfl

namespace Document

def resume (rest : List Symbol) : Progress → Except Document (Document × List Symbol)
  | .complete document => return (document, rest)
  | .reading stack place => run stack place rest

theorem run_eq (stack : List Frame) (place : Place) (cs : List Symbol) :
    run stack place cs = match Token.next? cs with
      | none => throw (abandon stack)
      | some (token, rest) => match advance stack place token with
        | none => throw (abandon stack)
        | some progress => resume rest progress := by
  rw [run]
  split
  · next hn => simp only [hn]
  · next token rest hn =>
    simp only [hn]
    cases advance stack place token with
    | none => rfl
    | some progress => cases progress <;> rfl

theorem run_of_next? {stack : List Frame} {place : Place} {cs rest : List Symbol} {token : Token}
    {progress : Progress} (h : Token.next? cs = some (token, rest))
    (hp : advance stack place token = some progress) :
    run stack place cs = resume rest progress := by
  rw [run_eq, h]
  dsimp only
  rw [hp]

/-- Reading with a bound on the tokens, which can be evaluated on a text that is given. -/
def runWithin : Nat → List Frame → Place → List Symbol → Except Document (Document × List Symbol)
  | 0, stack, _, _ => throw (abandon stack)
  | bound + 1, stack, place, cs => match Token.next? cs with
    | none => throw (abandon stack)
    | some (token, rest) => match advance stack place token with
      | none => throw (abandon stack)
      | some (.complete document) => return (document, rest)
      | some (.reading stack place) => runWithin bound stack place rest

theorem run_eq_runWithin {bound : Nat} {stack : List Frame} {place : Place} {cs : List Symbol}
    (h : cs.length < bound) : run stack place cs = runWithin bound stack place cs := by
  induction bound generalizing stack place cs with
  | zero => exact absurd h (Nat.not_lt_zero _)
  | succ bound ih =>
    rw [run_eq, runWithin]
    cases hn : Token.next? cs with
    | none => rfl
    | some next =>
      dsimp only
      cases advance stack place next.1 with
      | none => rfl
      | some progress =>
        cases progress with
        | complete document => rfl
        | reading stack place =>
          exact ih (Nat.lt_of_lt_of_le (Token.length_lt_of_next? hn) (Nat.le_of_lt_succ h))

theorem scan_of_runWithin {cs : List Symbol} {result : Except Document (Document × List Symbol)}
    (h : runWithin (cs.length + 1) [] (.value false) cs = result) : scan cs = result :=
  (run_eq_runWithin (Nat.lt_succ_self _)).trans h

/-- Wherever a value may stand, what is printed for it is read as the document. -/
def Spells (json : Json) (document : Document) : Prop :=
  ∀ (stack : List Frame) (closable : Bool) (rest : List Char) (progress : Progress),
    Progress.finish document stack = some progress →
    run stack (.value closable) (marks (json.write rest)) = resume (marks rest) progress

theorem spells_null : Spells .null .null := by
  intro stack closable rest progress hp
  exact run_of_next? (next?_null rest) hp

theorem spells_bool (b : Bool) : Spells (.bool b) (.bool b) := by
  intro stack closable rest progress hp
  exact run_of_next? (next?_bool b rest) hp

theorem spells_text (text : String) : Spells (.text text) (.text (symbols text)) := by
  intro stack closable rest progress hp
  exact run_of_next? (next?_writeText text rest) hp

abbrev SpellItems (items : List Json) (documents : List Document) : Prop :=
  List.Forall₂ Spells items documents

theorem run_items {items : List Json} {documents : List Document} (h : SpellItems items documents)
    (done : List Document) (stack : List Frame) (rest : List Char) (progress : Progress)
    (hp : Progress.finish (.array (done.reverse ++ documents)) stack = some progress) :
    run (.items done :: stack) .separator (marks (writeItems items rest)) =
      resume (marks rest) progress := by
  induction h generalizing done with
  | nil =>
    rw [List.append_nil] at hp
    exact run_of_next? (next?_closeBracket rest) hp
  | @cons item document items documents hi _ ih =>
    rw [writeItems_cons, run_of_next? (next?_comma _) rfl, resume, hi _ _ _ _ rfl, resume]
    refine ih _ ?_
    rw [List.reverse_cons, List.append_assoc]
    exact hp

theorem spells_array {items : List Json} {documents : List Document}
    (h : SpellItems items documents) : Spells (.array items) (.array documents) := by
  intro stack closable rest progress hp
  cases h with
  | nil =>
    rw [write_array_nil, run_of_next? (next?_openBracket _) rfl, resume]
    exact run_of_next? (next?_closeBracket rest) hp
  | cons hi h =>
    rw [write_array_cons, run_of_next? (next?_openBracket _) rfl, resume, hi _ _ _ _ rfl, resume]
    exact run_items h _ stack rest progress hp

abbrev SpellMembers (members : List (String × Json))
    (documents : List (List Symbol × Document)) : Prop :=
  List.Forall₂ (fun m d => d.1 = symbols m.1 ∧ Spells m.2 d.2) members documents

theorem run_member {key : String} {value : Json} {document : Document} (h : Spells value document)
    (closable : Bool) (done : List (List Symbol × Document)) (stack : List Frame)
    (rest : List Char) :
    run (.members done :: stack) (.key closable) (marks (writeText key (':' :: write value rest))) =
      run (.members ((symbols key, document) :: done) :: stack) .separator (marks rest) := by
  rw [run_of_next? (next?_writeText key _) rfl, resume, run_of_next? (next?_colon _) rfl, resume]
  exact h (.member done (symbols key) :: stack) false rest (.reading _ .separator) rfl

theorem run_members {members : List (String × Json)} {documents : List (List Symbol × Document)}
    (h : SpellMembers members documents) (done : List (List Symbol × Document))
    (stack : List Frame) (rest : List Char) (progress : Progress)
    (hp : Progress.finish (.object (done.reverse ++ documents)) stack = some progress) :
    run (.members done :: stack) .separator (marks (writeMembers members rest)) =
      resume (marks rest) progress := by
  induction h generalizing done with
  | nil =>
    rw [List.append_nil] at hp
    exact run_of_next? (next?_closeBrace rest) hp
  | @cons m d members documents hm _ ih =>
    obtain ⟨key, value⟩ := m
    obtain ⟨_, document⟩ := d
    obtain ⟨rfl, hm⟩ := hm
    rw [writeMembers_cons, run_of_next? (next?_comma _) rfl, resume, run_member hm]
    refine ih _ ?_
    rw [List.reverse_cons, List.append_assoc]
    exact hp

theorem spells_object {members : List (String × Json)}
    {documents : List (List Symbol × Document)} (h : SpellMembers members documents) :
    Spells (.object members) (.object documents) := by
  intro stack closable rest progress hp
  cases h with
  | nil =>
    rw [write_object_nil, run_of_next? (next?_openBrace _) rfl, resume]
    exact run_of_next? (next?_closeBrace rest) hp
  | @cons m d members documents hm h =>
    obtain ⟨key, value⟩ := m
    obtain ⟨_, document⟩ := d
    obtain ⟨rfl, hm⟩ := hm
    rw [write_object_cons, run_of_next? (next?_openBrace _) rfl, resume, run_member hm]
    exact run_members h _ stack rest progress hp

/-- A whole text that is printed for a value is read as its document, and nothing is left. -/
theorem scan_print {json : Json} {document : Document} (h : Spells json document) :
    scan (symbols json.print) = .ok (document, []) := by
  rw [scan, symbols, print, String.toList_ofList]
  exact h [] false [] (.complete document) rfl

end Document

end Rulebook.Json
