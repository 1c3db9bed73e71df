import Rulebook.Proofs.Settings.Keys

/-! # What is loaded

Settings are loaded wherever the layers state them in their places and in a form that can be read.
Each setting is then, whatever the others are, what the last layer that states it says.
-/

namespace Rulebook

open SettingTree (shown? statedBy? statedBehind? statedBy?_cons_eq_some_iff shown?_overlaySource)

namespace SettingKey

theorem variablePath?_variableName (key : SettingKey) :
    ∃ text, Settings.variablePath? key.variableName = some text ∧
      SettingStep.path? text = some (key.path.map .key) := by
  refine ⟨".".intercalate key.path, ?_, ?_⟩
  · cases key <;> decide +kernel
  · cases key <;> decide +kernel

theorem path_injective : Function.Injective path := by
  intro key key' h
  cases key <;> cases key' <;> first | rfl | exact absurd h (by decide +kernel)

theorem variableName_injective : Function.Injective variableName := by
  intro key key' h
  obtain ⟨text, hpath, hsteps⟩ := key.variablePath?_variableName
  obtain ⟨text', hpath', hsteps'⟩ := key'.variablePath?_variableName
  obtain rfl := Option.some.inj (hpath.symm.trans (h ▸ hpath'))
  have hsame := Option.some.inj (hsteps.symm.trans hsteps')
  exact path_injective (List.map_injective_iff.mpr (fun _ _ => SettingStep.key.inj) hsame)

theorem statedBehind?_path (key key' : SettingKey) (value : Scalar) :
    statedBehind? (.scalar value) (key.path.map .key) key'.path =
      some (if key = key' then some value else none) := by
  cases key <;> cases key' <;> rfl

end SettingKey

namespace Settings

variable {vars : Variables} {service environment : String} {files : Files}

section Variables

/-- A path that leads to no setting and to none of the sections. -/
def LeadsElsewhere (text : String) : Prop :=
  ∀ (key : SettingKey) (value : Scalar),
    statedBehind? (.scalar value) ((SettingStep.path? text).getD [.key text]) key.path = some none

theorem not_leadsElsewhere {key : SettingKey} {text : String}
    (h : variablePath? key.variableName = some text) : ¬ LeadsElsewhere text := by
  intro helse
  obtain ⟨text', hpath, hsteps⟩ := key.variablePath?_variableName
  obtain rfl := Option.some.inj (h.symm.trans hpath)
  have hstated := helse key (.bool true)
  rw [hsteps, Option.getD_some, key.statedBehind?_path, if_pos rfl] at hstated
  cases hstated

/-- No variable occurs twice, and each is readable for its key or leads elsewhere. -/
structure Suit (vars : Variables) : Prop where
  nodup : (vars.map (·.1)).Nodup
  each : ∀ name text path, (name, text) ∈ vars → variablePath? name = some path →
    (∃ key : SettingKey, name = key.variableName ∧
      (key.kind.read? (Scalar.ofVariable text)).isSome) ∨ LeadsElsewhere path

def setByVariable (vars : Variables) (key : SettingKey) : Option Scalar :=
  (vars.lookup key.variableName).map Scalar.ofVariable

theorem Suit.tail {entry : String × String} (h : Suit (entry :: vars)) : Suit vars :=
  ⟨(List.nodup_cons.mp h.nodup).2, fun name text path hm => h.each name text path (.tail _ hm)⟩

theorem statedByVariables_cons_of_none {name text : String} (h : variablePath? name = none) :
    statedByVariables ((name, text) :: vars) = statedByVariables vars :=
  List.filterMap_cons_none (congrArg (Option.map _) h)

theorem statedByVariables_cons_of_some {name text path : String}
    (h : variablePath? name = some path) :
    statedByVariables ((name, text) :: vars) =
      (path, .scalar (Scalar.ofVariable text)) :: statedByVariables vars :=
  List.filterMap_cons_some (congrArg (Option.map _) h)

/-- Variables state a key by the variable that is named for it, and in no other way. -/
theorem statedBy?_variables (h : Suit vars) (key : SettingKey) :
    statedBy? key.path (statedByVariables vars) = some (setByVariable vars key) := by
  induction vars with
  | nil => rfl
  | cons entry vars ih =>
    obtain ⟨name, text⟩ := entry
    have hrest := ih h.tail
    rw [setByVariable, SettingTree.lookup_cons]
    cases hpath : variablePath? name with
    | none =>
      have hne : name ≠ key.variableName := by
        rintro rfl
        obtain ⟨path, hkey, -⟩ := key.variablePath?_variableName
        cases hpath.symm.trans hkey
      rw [if_neg hne, statedByVariables_cons_of_none hpath]
      exact hrest
    | some path =>
      rw [statedByVariables_cons_of_some hpath, statedBy?_cons_eq_some_iff]
      rcases h.each name text path (.head _) hpath with ⟨key', rfl, -⟩ | helse
      · obtain ⟨path', hkey, hsteps⟩ := key'.variablePath?_variableName
        obtain rfl := Option.some.inj (hpath.symm.trans hkey)
        rw [hsteps]
        refine ⟨_, _, key'.statedBehind?_path key _, hrest, ?_⟩
        by_cases hsame : key' = key
        · subst hsame
          have hnone : vars.lookup key'.variableName = none := by
            rw [List.lookup_eq_none_iff]
            rintro ⟨name', text'⟩ hm
            refine bne_iff_ne.mpr ?_
            rintro rfl
            exact (List.nodup_cons.mp h.nodup).1 (List.mem_map.mpr ⟨_, hm, rfl⟩)
          rw [if_pos rfl, if_pos rfl, setByVariable, hnone]
          rfl
        · rw [if_neg hsame, if_neg fun heq => hsame (SettingKey.variableName_injective heq),
            Option.or_none]
          rfl
      · refine ⟨_, _, helse key _, hrest, ?_⟩
        have hne : name ≠ key.variableName := by
          rintro rfl
          exact not_leadsElsewhere hpath helse
        rw [if_neg hne, Option.or_none]
        rfl

theorem read?_of_setByVariable {key : SettingKey} {value : Scalar} (h : Suit vars)
    (hv : setByVariable vars key = some value) : (key.kind.read? value).isSome := by
  obtain ⟨text, hlookup, rfl⟩ := Option.map_eq_some_iff.mp hv
  obtain ⟨path, hpath, -⟩ := key.variablePath?_variableName
  have hm : (key.variableName, text) ∈ vars := by
    obtain ⟨before, after, rfl, -⟩ := List.lookup_eq_some_iff.mp hlookup
    exact List.mem_append_right _ (.head _)
  rcases h.each _ text path hm hpath with ⟨key', hname, hread⟩ | helse
  · obtain rfl := SettingKey.variableName_injective hname
    exact hread
  · exact absurd helse (not_leadsElsewhere hpath)

end Variables

section Layers

/-- The source states these scalars for the keys, in their places and in a form that can be
read. -/
structure States (source : List (String × SettingTree)) (stated : SettingKey → Option Scalar) :
    Prop where
  places : ∀ key : SettingKey, statedBy? key.path source = some (stated key)
  readable : ∀ (key : SettingKey) (value : Scalar), stated key = some value →
    (key.kind.read? value).isSome

def named (service environment : String) : SettingKey → Option Scalar
  | .serviceName => some (.text service)
  | .environment => some (.text environment)
  | _ => none

theorem shown?_names (service environment : String) (key : SettingKey) :
    shown? key.path (some (names service environment)) = some (named service environment key) := by
  cases key <;> rfl

theorem getD_named (service environment : String) (key : SettingKey) :
    (named service environment key).getD (({} : Settings).value key) =
      ({ serviceName := service, environment } : Settings).value key := by
  cases key <;> rfl

theorem read?_base (service environment : String) (key : SettingKey) :
    (key.kind.read? (({ serviceName := service, environment } : Settings).value key)).isSome := by
  cases key <;> rfl

theorem states_variables (h : Suit vars) : States (statedByVariables vars) (setByVariable vars) :=
  ⟨statedBy?_variables h, fun _ _ => read?_of_setByVariable h⟩

/-- What a key is set to by the last layer that states it, or by the names and defaults. -/
def latest (service environment : String) (layers : List (SettingKey → Option Scalar))
    (key : SettingKey) : Scalar :=
  layers.foldl (fun below stated => (stated key).getD below)
    (({ serviceName := service, environment } : Settings).value key)

variable {sources : List (List (String × SettingTree))}
  {layers : List (SettingKey → Option Scalar)}

theorem getD_foldl_or (key : SettingKey) (layers : List (SettingKey → Option Scalar))
    (base : Option Scalar) (default : Scalar) :
    (((layers.map (· key)).foldl (fun below o => o.or below) base).getD default) =
      layers.foldl (fun below stated => (stated key).getD below) (base.getD default) := by
  induction layers generalizing base with
  | nil => rfl
  | cons stated layers ih =>
    rw [List.map_cons, List.foldl_cons, List.foldl_cons, ih]
    cases stated key <;> rfl

theorem isSome_read?_latest (h : List.Forall₂ States sources layers) (key : SettingKey) :
    (key.kind.read? (latest service environment layers key)).isSome := by
  rw [latest]
  have hbase := read?_base service environment key
  generalize ({ serviceName := service, environment } : Settings).value key = base at hbase ⊢
  induction h generalizing base with
  | nil => exact hbase
  | @cons source stated _ _ hstates _ ih =>
    refine ih ((stated key).getD base) ?_
    cases hstated : stated key with
    | none => exact hbase
    | some value => exact hstates.readable key value hstated

/-- Layers that state settings make up a tree that has settings, which are the last ones stated. -/
theorem exists_ofTree?_foldl (service environment : String)
    (h : List.Forall₂ States sources layers) :
    ∃ settings, ofTree? (sources.foldl SettingTree.overlaySource (names service environment)) =
      some settings ∧ ∀ key : SettingKey,
        key.kind.read? (latest service environment layers key) = some (settings.value key) := by
  have hshown (key : SettingKey) :
      shown? key.path (some (sources.foldl SettingTree.overlaySource (names service environment))) =
        some ((layers.map (· key)).foldl (fun below o => o.or below)
          (named service environment key)) := by
    refine SettingTree.shown?_foldl ?_ (shown?_names service environment key)
    exact List.forall₂_map_right_iff.mpr (h.imp fun _ _ hstates => hstates.places key)
  have hlatest (key : SettingKey) : ((layers.map (· key)).foldl (fun below o => o.or below)
      (named service environment key)).getD (({} : Settings).value key) =
        latest service environment layers key := by
    rw [getD_foldl_or, getD_named, latest]
  obtain ⟨settings, hsettings, hvalue⟩ := exists_ofTree? hshown fun key => by
    rw [hlatest]
    exact isSome_read?_latest h key
  exact ⟨settings, hsettings, fun key => hlatest key ▸ hvalue key⟩

end Layers

/-- Layers that state keys in place are loaded, and each key is what its last layer says. -/
theorem loadFrom_layered (service environment : String)
    {ofDefault ofEnvironment ofService : SettingKey → Option Scalar}
    {default env own : List (String × SettingTree)}
    (hdefault : readFile files "default.toml" = some default)
    (henv : readFile files (environment ++ ".toml") = some env)
    (hown : readFile files (service ++ ".toml") = some own)
    (hd : States default ofDefault) (he : States env ofEnvironment) (ho : States own ofService)
    (hv : Suit vars) :
    ∃ settings, loadFrom service environment files vars = some settings ∧
      let latest := latest service environment
        [ofDefault, ofEnvironment, ofService, setByVariable vars]
      (∀ key : SettingKey, key ≠ .port ∨ servicePort? service vars = none →
        key.kind.read? (latest key) = some (settings.value key) ∧
          (key.kind.admits (latest key) → settings.value key = latest key) ∧
          ∀ text value, vars.lookup key.variableName = some text → key.kind.Spells text value →
            settings.value key = value) ∧
      ∀ port, servicePort? service vars = some port → settings.value .port = .integer port := by
  have hlayers : layers service environment files vars =
      some ([default, env, own, statedByVariables vars].foldl SettingTree.overlaySource
        (names service environment)) := by
    simp [layers, fileNames, List.mapM_cons, List.mapM_nil, hdefault, henv, hown]
  obtain ⟨settings, hsettings, hvalue⟩ := exists_ofTree?_foldl service environment
    (.cons hd (.cons he (.cons ho (.cons (states_variables hv) .nil))))
  have hadmitted (key : SettingKey) (hadmits : key.kind.admits (latest service environment
      [ofDefault, ofEnvironment, ofService, setByVariable vars] key)) :
      settings.value key = latest service environment
        [ofDefault, ofEnvironment, ofService, setByVariable vars] key :=
    SettingKind.eq_of_read? hadmits (hvalue key)
  have hspelled (key : SettingKey) (text : String) (value : Scalar)
      (hlookup : vars.lookup key.variableName = some text) (hspells : key.kind.Spells text value) :
      settings.value key = value := by
    have hset : setByVariable vars key = some value := by
      rw [setByVariable, hlookup, Option.map_some, hspells.ofVariable]
    have hlast : latest service environment
        [ofDefault, ofEnvironment, ofService, setByVariable vars] key = value := by
      simp [latest, hset]
    exact (hadmitted key (hlast ▸ hspells.admits)).trans hlast
  cases hport : servicePort? service vars with
  | none =>
    refine ⟨settings, ?_, fun key _ => ⟨hvalue key, hadmitted key, hspelled key⟩, ?_⟩
    · rw [loadFrom, hlayers, Option.bind_eq_bind, Option.bind_some, hsettings]
      simp [hport]
    · rintro port ⟨⟩
  | some port =>
    refine ⟨{ settings with server := { settings.server with port } }, ?_, ?_, ?_⟩
    · rw [loadFrom, hlayers, Option.bind_eq_bind, Option.bind_some, hsettings]
      simp [hport]
    · intro key hkey
      have hsame : Settings.value { settings with server := { settings.server with port } } key =
          settings.value key := by
        have hne : key ≠ .port := hkey.resolve_right (by simp)
        cases key <;> first | rfl | exact absurd rfl hne
      rw [hsame]
      exact ⟨hvalue key, hadmitted key, hspelled key⟩
    · intro port' h
      obtain rfl := Option.some.inj h
      rfl

theorem exists_states {name : String} {stated : SettingKey → Option Scalar}
    (h : (readFile files name).map (fun source => SettingKey.all.map (statedBy? ·.path source)) =
      some (SettingKey.all.map fun key => some (stated key)))
    (hr : ∀ key ∈ SettingKey.all, ((stated key).map key.kind.read?).all Option.isSome) :
    ∃ source, readFile files name = some source ∧ States source stated := by
  obtain ⟨source, hsource, hstated⟩ := Option.map_eq_some_iff.mp h
  refine ⟨source, hsource, fun key => List.map_inj_left.mp hstated key key.mem_all, ?_⟩
  intro key value hvalue
  have hread := hr key key.mem_all
  rw [hvalue] at hread
  exact hread

theorem loadFrom_layered_staging :
    let files : Files :=
      [("default.toml", "[server]\nport = 9000\n\n[engine]\nmax_rule_length = 256\n"),
        ("staging.toml", "engine.trace_enabled = true\nserver.port = 9001")]
    let vars : Variables := [("RULES_ENV", "staging"), ("RULES_OBSERVABILITY__LOG_LEVEL", "warn"),
      ("SVC_PORT", "7000"), ("HOME", "/root")]
    let ofDefault : SettingKey → Option Scalar
      | .port => some (.integer 9000)
      | .ruleLength => some (.integer 256)
      | _ => none
    let ofStaging : SettingKey → Option Scalar
      | .port => some (.integer 9001)
      | .tracing => some (.bool true)
      | _ => none
    ∃ default staging settings, readFile files "default.toml" = some default ∧
      readFile files "staging.toml" = some staging ∧ readFile files "svc.toml" = some [] ∧
      States default ofDefault ∧ States staging ofStaging ∧ States [] (fun _ => none) ∧
      Suit vars ∧ loadFrom "svc" "staging" files vars = some settings ∧
      settings.value .ruleLength = .integer 256 ∧ settings.value .tracing = .bool true ∧
      settings.value .logLevel = .text "warn" ∧ settings.value .host = .text "0.0.0.0" ∧
      settings.value .serviceName = .text "svc" ∧ settings.value .port = .integer 7000 := by
  intro files vars ofDefault ofStaging
  obtain ⟨default, hdefault, hd⟩ : ∃ source, readFile files "default.toml" = some source ∧
      States source ofDefault :=
    exists_states (by decide +kernel) (by decide +kernel)
  obtain ⟨staging, hstaging, he⟩ : ∃ source, readFile files "staging.toml" = some source ∧
      States source ofStaging :=
    exists_states (by decide +kernel) (by decide +kernel)
  have hown : readFile files "svc.toml" = some [] := rfl
  have ho : States [] fun _ => none := ⟨fun key => rfl, nofun⟩
  have hv : Suit vars := by
    refine ⟨by decide, fun name text path hm hpath => ?_⟩
    simp only [vars, List.mem_cons, List.not_mem_nil, or_false, Prod.mk.injEq] at hm
    rcases hm with ⟨rfl, rfl⟩ | ⟨rfl, rfl⟩ | ⟨rfl, rfl⟩ | ⟨rfl, rfl⟩
    · have henv : variablePath? "RULES_ENV" = some "env" := by decide +kernel
      obtain rfl := Option.some.inj (henv.symm.trans hpath)
      have hsteps : SettingStep.path? "env" = some [.key "env"] := by decide +kernel
      refine .inr fun key value => ?_
      rw [hsteps]
      cases key <;> rfl
    · exact .inl ⟨.logLevel, by decide +kernel, by decide +kernel⟩
    · cases hpath.symm.trans (by decide +kernel : variablePath? "SVC_PORT" = none)
    · cases hpath.symm.trans (by decide +kernel : variablePath? "HOME" = none)
  obtain ⟨settings, hload, hvalue, hport⟩ :=
    loadFrom_layered "svc" "staging" hdefault hstaging hown hd he ho hv
  have hset (key : SettingKey) (hkey : key ≠ .port) (hadmits : key.kind.admits (latest "svc"
      "staging" [ofDefault, ofStaging, fun _ => none, setByVariable vars] key)) :
      settings.value key = latest "svc" "staging"
        [ofDefault, ofStaging, fun _ => none, setByVariable vars] key :=
    (hvalue key (.inl hkey)).2.1 hadmits
  refine ⟨default, staging, settings, hdefault, hstaging, hown, hd, he, ho, hv, hload, ?_⟩
  refine ⟨?_, ?_, ?_, ?_, ?_, hport 7000 (by decide +kernel)⟩
  · exact (hset .ruleLength (by decide) (by decide +kernel)).trans (by decide +kernel)
  · exact (hset .tracing (by decide) (by decide +kernel)).trans (by decide +kernel)
  · exact (hset .logLevel (by decide) (by decide +kernel)).trans (by decide +kernel)
  · exact (hset .host (by decide) (by decide +kernel)).trans (by decide +kernel)
  · exact (hset .serviceName (by decide) (by decide +kernel)).trans (by decide +kernel)

/-- A bare `.toml`, a number beyond the words and a port through a setting are not loaded as
stated. -/
theorem loadFrom_unlayered :
    (Toml.parse? "[server]\nport = 5").bind (statedBy? SettingKey.port.path) =
      some (some (.integer 5)) ∧
    (loadFrom "svc" "" [(".toml", "[server]\nport = 5")] []).map (·.value .port) =
      some (.integer 8080) ∧
    Numeral.natural? "9223372036854775809" = some 9223372036854775809 ∧
    9223372036854775809 < Scalar.wordBound ∧
    (loadFrom "svc" "dev" [] [("RULES_ENGINE__MAX_RULE_LENGTH", "9223372036854775809")]).map
      (·.value .ruleLength) = some (.integer 9223372036854775808) ∧
    portVariable "rules-service-name-" = "RULES_SERVICE_NAME__PORT" ∧ port? "9000" = some 9000 ∧
    loadFrom "rules-service-name-" "dev" [] [("RULES_SERVICE_NAME__PORT", "9000")] = none := by
  decide +kernel

end Settings

end Rulebook
