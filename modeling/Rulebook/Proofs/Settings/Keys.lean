import Rulebook.Proofs.Settings.Layering
import Rulebook.Settings.Loading

/-! # Keys

The settings one by one: where each stands in a tree, of what kind it is, and which variable sets
it. A tree is read key by key. It has settings if each of its keys can be read, and a key that it
does not set has its default.
-/

namespace Rulebook

inductive SettingKind
  | text
  | flag
  | natural (bound : Nat)
deriving DecidableEq

namespace SettingKind

def read? : SettingKind → Scalar → Option Scalar
  | text, s => some (.text s.toText)
  | flag, s => s.toBool?.map .bool
  | natural bound, s => (s.toNat? bound).map fun (n : Nat) => .integer n

/-- Whether a scalar is of the kind, and not only readable as such. -/
def admits : SettingKind → Scalar → Bool
  | text, .text _ => true
  | flag, .bool _ => true
  | natural bound, .integer n => 0 ≤ n && n < bound
  | _, _ => false

theorem read?_of_admits {kind : SettingKind} {s : Scalar} (h : kind.admits s) :
    kind.read? s = some s := by
  cases kind with
  | text => cases s <;> first | rfl | cases h
  | flag => cases s <;> first | rfl | cases h
  | natural bound =>
    cases s with
    | integer n =>
      simp only [admits, Bool.and_eq_true, decide_eq_true_eq] at h
      have hn : (n.toNat : Int) = n := Int.toNat_of_nonneg h.1
      have hlt : n.toNat < bound := by omega
      simp [read?, Scalar.toNat?, Int.not_lt.mpr h.1, Option.filter, hlt, hn]
    | _ => cases h

theorem eq_of_read? {kind : SettingKind} {s value : Scalar} (h : kind.admits s)
    (hr : kind.read? s = some value) : value = s :=
  Option.some.inj (hr.symm.trans (read?_of_admits h))

section Variables

inductive Spells : SettingKind → String → Scalar → Prop
  | text {text : String} (htrue : Scalar.lower text ≠ "true") (hfalse : Scalar.lower text ≠ "false")
      (hinteger : Scalar.integer? text = none) (hfloat : Scalar.float? text = none) :
      Spells .text text (.text text)
  | flag {text : String} (b : Bool) (h : Scalar.lower text = if b then "true" else "false") :
      Spells .flag text (.bool b)
  | natural {text : String} {bound n : Nat} (h : Numeral.natural? text = some n) (hn : n < bound)
      (hword : n < 0x8000000000000000) : Spells (.natural bound) text (.integer n)

variable {kind : SettingKind} {text : String} {value : Scalar} {n : Nat}

theorem Spells.admits (h : Spells kind text value) : kind.admits value := by
  cases h with
  | text => rfl
  | flag => rfl
  | natural _ hn => simp [SettingKind.admits, hn]

theorem isDigit_of_natural? (h : Numeral.natural? text = some n) :
    ∀ c ∈ text.toList, c = '+' ∨ c.isDigit := by
  simp only [Numeral.natural?] at h
  split at h
  · next ds hds =>
    split_ifs at h with hd
    simp only [not_or, not_not] at hd
    rw [hds]
    intro c hc
    rcases List.mem_cons.mp hc with rfl | hc
    · exact .inl rfl
    · exact .inr (List.all_eq_true.mp hd.2 c hc)
  · split_ifs at h with hd
    simp only [not_or, not_not] at hd
    exact fun c hc => .inr (List.all_eq_true.mp hd.2 c hc)

theorem toLower_of_isDigit {c : Char} (h : c = '+' ∨ c.isDigit) : c.toLower = c := by
  rcases h with rfl | h
  · rfl
  · refine dif_neg fun hupper => ?_
    simp only [Char.isDigit, Bool.and_eq_true, decide_eq_true_eq] at h
    exact absurd (UInt32.le_trans hupper.1 h.2) (by decide)

theorem lower_of_natural? (h : Numeral.natural? text = some n) : Scalar.lower text = text := by
  have hlower (c : Char) (hc : c ∈ text.toList) : c.toLower = c :=
    toLower_of_isDigit (isDigit_of_natural? h c hc)
  rw [Scalar.lower, ← String.toList_inj, String.toList_map]
  exact (List.map_congr_left hlower).trans (List.map_id _)

theorem fitsWord_ofNat (h : n < 0x8000000000000000) : Scalar.fitsWord (Int.ofNat n) = true := by
  have hn : Int.ofNat n < 0x8000000000000000 := Int.ofNat_lt.mpr h
  rw [Scalar.fitsWord, decide_eq_true hn, Bool.and_true, decide_eq_true_iff]
  exact Int.le_trans (by decide) (Int.natCast_nonneg n)

theorem integer?_of_natural? (h : Numeral.natural? text = some n)
    (hn : n < 0x8000000000000000) : Scalar.integer? text = some (Int.ofNat n) := by
  unfold Scalar.integer?
  split
  · next ds hds =>
    have hminus := isDigit_of_natural? h '-' (hds ▸ List.mem_cons_self)
    exact absurd hminus (by decide)
  · rw [h, Option.map_some, Option.bind_eq_bind, Option.bind_some]
    dsimp only
    rw [if_pos (fitsWord_ofNat hn)]

theorem Spells.ofVariable (h : Spells kind text value) : Scalar.ofVariable text = value := by
  cases h with
  | text htrue hfalse hinteger hfloat =>
    rw [Scalar.ofVariable, if_neg htrue, if_neg hfalse, hinteger, hfloat]
  | flag b h =>
    rw [Scalar.ofVariable, h]
    cases b <;> rfl
  | natural h hn hword =>
    have hword (word : String) (hw : Numeral.natural? word = none) : Scalar.lower text ≠ word := by
      rw [lower_of_natural? h]
      rintro rfl
      cases h.symm.trans hw
    rw [Scalar.ofVariable, if_neg (hword "true" rfl), if_neg (hword "false" rfl),
      integer?_of_natural? h ‹_›]
    rfl

end Variables

end SettingKind

inductive SettingKey
  | serviceName
  | environment
  | host
  | port
  | logLevel
  | logFormat
  | metricsEnabled
  | metricsPort
  | ruleLength
  | ruleCount
  | depth
  | tracing
deriving DecidableEq

namespace SettingKey

def all : List SettingKey :=
  [serviceName, environment, host, port, logLevel, logFormat, metricsEnabled, metricsPort,
    ruleLength, ruleCount, depth, tracing]

theorem mem_all (key : SettingKey) : key ∈ all := by
  cases key <;> decide

def path : SettingKey → List String
  | serviceName => ["service_name"]
  | environment => ["environment"]
  | host => ["server", "host"]
  | port => ["server", "port"]
  | logLevel => ["observability", "log_level"]
  | logFormat => ["observability", "log_format"]
  | metricsEnabled => ["observability", "metrics_enabled"]
  | metricsPort => ["observability", "metrics_port"]
  | ruleLength => ["engine", "max_rule_length"]
  | ruleCount => ["engine", "max_combine_rules"]
  | depth => ["engine", "max_depth"]
  | tracing => ["engine", "trace_enabled"]

def kind : SettingKey → SettingKind
  | port | metricsPort => .natural Scalar.portBound
  | ruleLength | ruleCount | depth => .natural Scalar.wordBound
  | metricsEnabled | tracing => .flag
  | _ => .text

/-- The variable that sets a key: its path in capitals behind `RULES_`. -/
def variableName (key : SettingKey) : String :=
  "RULES_" ++ "__".intercalate (key.path.map String.toUpper)

end SettingKey

def Settings.value (s : Settings) : SettingKey → Scalar
  | .serviceName => .text s.serviceName
  | .environment => .text s.environment
  | .host => .text s.server.host
  | .port => .integer s.server.port
  | .logLevel => .text s.logs.level
  | .logFormat => .text s.logs.format
  | .metricsEnabled => .bool s.logs.metricsEnabled
  | .metricsPort => .integer s.logs.metricsPort
  | .ruleLength => .integer s.engine.ruleLength
  | .ruleCount => .integer s.engine.ruleCount
  | .depth => .integer s.engine.depth
  | .tracing => .bool s.engine.tracing

namespace Settings

open SettingTree (shown?)

variable {tree part : SettingTree} {name key : String} {o : Option Scalar}

theorem exists_scalarOr {α : Type} {default : α} {read : Scalar → Option α} (wrap : α → Scalar)
    (hd : read (wrap default) = some default) (h : shown? [name] (some tree) = some o)
    (hr : ((read (o.getD (wrap default))).map wrap).isSome) :
    ∃ a, scalarOr default read tree name = some a ∧
      (read (o.getD (wrap default))).map wrap = some (wrap a) := by
  have heq : scalarOr default read tree name = read (o.getD (wrap default)) := by
    cases tree with
    | table entries =>
      rw [shown?] at h
      rw [scalarOr, SettingTree.child?, SettingTree.entries]
      cases hl : entries.lookup name with
      | none =>
        rw [hl] at h
        cases h
        exact hd.symm
      | some entry =>
        rw [hl] at h
        cases entry with
        | scalar value =>
          cases h
          rfl
        | _ => cases h
    | _ => cases h
  rw [heq]
  cases hread : read (o.getD (wrap default)) with
  | none =>
    rw [hread] at hr
    cases hr
  | some a => exact ⟨a, rfl, rfl⟩

theorem exists_textOr {default : String} (h : shown? [name] (some tree) = some o)
    (hr : (SettingKind.text.read? (o.getD (.text default))).isSome) :
    ∃ a, textOr default tree name = some a ∧
      SettingKind.text.read? (o.getD (.text default)) = some (.text a) :=
  exists_scalarOr Scalar.text rfl h hr

theorem exists_boolOr {default : Bool} (h : shown? [name] (some tree) = some o)
    (hr : (SettingKind.flag.read? (o.getD (.bool default))).isSome) :
    ∃ a, boolOr default tree name = some a ∧
      SettingKind.flag.read? (o.getD (.bool default)) = some (.bool a) :=
  exists_scalarOr Scalar.bool rfl h hr

theorem toNat?_ofNat {bound n : Nat} (h : n < bound) :
    Scalar.toNat? bound (.integer n) = some n := by
  have hn : ¬ (n : Int) < 0 := by omega
  simp [Scalar.toNat?, hn, Option.filter, h]

theorem exists_naturalOr {bound default : Nat} (hd : default < bound)
    (h : shown? [name] (some tree) = some o)
    (hr : ((SettingKind.natural bound).read? (o.getD (.integer default))).isSome) :
    ∃ a, scalarOr default (Scalar.toNat? bound) tree name = some a ∧
      (SettingKind.natural bound).read? (o.getD (.integer default)) = some (.integer a) :=
  exists_scalarOr (fun n : Nat => Scalar.integer n) (toNat?_ofNat hd) h hr

theorem exists_section (keys : List String) (h : shown? [name, key] (some tree) = some o) :
    ∃ part, section? keys tree name = some part ∧
      ∀ key' o', shown? [name, key'] (some tree) = some o' →
        shown? [key'] (some part) = some o' := by
  cases tree with
  | table entries =>
    rw [shown?] at h
    rw [section?, SettingTree.child?, SettingTree.entries]
    simp only [shown?]
    cases hl : entries.lookup name with
    | none => exact ⟨_, rfl, fun _ _ h' => h'⟩
    | some entry =>
      rw [hl] at h
      cases entry with
      | table below => exact ⟨_, rfl, fun _ _ h' => h'⟩
      | _ => cases h
  | _ => cases h

/-- A tree has settings if nothing stands in the way of a key and what each leads to can be read. -/
theorem exists_ofTree? {shown : SettingKey → Option Scalar}
    (h : ∀ key : SettingKey, shown? key.path (some tree) = some (shown key))
    (hr : ∀ key : SettingKey,
      (key.kind.read? ((shown key).getD (({} : Settings).value key))).isSome) :
    ∃ settings, ofTree? tree = some settings ∧ ∀ key : SettingKey,
      key.kind.read? ((shown key).getD (({} : Settings).value key)) =
        some (settings.value key) := by
  obtain ⟨server, hserver, hin⟩ := exists_section ["host", "port"] (h .host)
  obtain ⟨logs, hlogs, hin'⟩ :=
    exists_section ["log_level", "log_format", "metrics_enabled", "metrics_port"] (h .logLevel)
  obtain ⟨engine, hengine, hin''⟩ := exists_section
    ["max_rule_length", "max_combine_rules", "max_depth", "trace_enabled"] (h .ruleLength)
  obtain ⟨serviceName, hname, vname⟩ := exists_textOr (h .serviceName) (hr .serviceName)
  obtain ⟨environment, henv, venv⟩ := exists_textOr (h .environment) (hr .environment)
  obtain ⟨host, hhost, vhost⟩ := exists_textOr (hin _ _ (h .host)) (hr .host)
  obtain ⟨port, hport, vport⟩ := exists_naturalOr (by decide) (hin _ _ (h .port)) (hr .port)
  obtain ⟨level, hlevel, vlevel⟩ := exists_textOr (hin' _ _ (h .logLevel)) (hr .logLevel)
  obtain ⟨format, hformat, vformat⟩ := exists_textOr (hin' _ _ (h .logFormat)) (hr .logFormat)
  obtain ⟨metrics, hmetrics, vmetrics⟩ :=
    exists_boolOr (hin' _ _ (h .metricsEnabled)) (hr .metricsEnabled)
  obtain ⟨metricsPort, hmport, vmport⟩ :=
    exists_naturalOr (by decide) (hin' _ _ (h .metricsPort)) (hr .metricsPort)
  obtain ⟨length, hlength, vlength⟩ :=
    exists_naturalOr (by decide) (hin'' _ _ (h .ruleLength)) (hr .ruleLength)
  obtain ⟨count, hcount, vcount⟩ :=
    exists_naturalOr (by decide) (hin'' _ _ (h .ruleCount)) (hr .ruleCount)
  obtain ⟨depth, hdepth, vdepth⟩ :=
    exists_naturalOr (by decide) (hin'' _ _ (h .depth)) (hr .depth)
  obtain ⟨tracing, htracing, vtracing⟩ :=
    exists_boolOr (hin'' _ _ (h .tracing)) (hr .tracing)
  refine ⟨⟨serviceName, environment, ⟨host, port⟩, ⟨level, format, metrics, metricsPort⟩,
    ⟨length, count, depth, tracing⟩⟩, ?_, fun key => by cases key <;> assumption⟩
  unfold ofTree?
  refine Option.bind_eq_some_iff.mpr ⟨server, hserver, ?_⟩
  refine Option.bind_eq_some_iff.mpr ⟨logs, hlogs, ?_⟩
  refine Option.bind_eq_some_iff.mpr ⟨engine, hengine, ?_⟩
  refine Option.bind_eq_some_iff.mpr ⟨serviceName, hname, ?_⟩
  refine Option.bind_eq_some_iff.mpr ⟨environment, henv, ?_⟩
  refine Option.bind_eq_some_iff.mpr ⟨host, hhost, ?_⟩
  refine Option.bind_eq_some_iff.mpr ⟨port, hport, ?_⟩
  refine Option.bind_eq_some_iff.mpr ⟨level, hlevel, ?_⟩
  refine Option.bind_eq_some_iff.mpr ⟨format, hformat, ?_⟩
  refine Option.bind_eq_some_iff.mpr ⟨metrics, hmetrics, ?_⟩
  refine Option.bind_eq_some_iff.mpr ⟨metricsPort, hmport, ?_⟩
  refine Option.bind_eq_some_iff.mpr ⟨length, hlength, ?_⟩
  refine Option.bind_eq_some_iff.mpr ⟨count, hcount, ?_⟩
  refine Option.bind_eq_some_iff.mpr ⟨depth, hdepth, ?_⟩
  exact Option.bind_eq_some_iff.mpr ⟨tracing, htracing, rfl⟩

end Settings

end Rulebook
