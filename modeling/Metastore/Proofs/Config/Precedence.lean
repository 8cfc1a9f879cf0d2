import Metastore.Config.Load
import Metastore.Proofs.Config.Merge
import Metastore.Proofs.Config.Settings
import Metastore.Proofs.Environment.Overrides
import Metastore.Proofs.Environment.Resolve
import Metastore.Proofs.Yaml.Keyed

/-!
# Which value of a setting wins

A setting that is loaded comes from the environment if a variable gives it, else from the file if it holds
a value there that is not null, else it is the default (`settings_of_load`). That takes an environment
whose overrides neither get in each other's way nor in the way of the settings (`Environment.Fits`).
-/

namespace Metastore

open Value (Keyed)
open Environment (overrideStart overrides AllApart)

/-- Whether the overrides of an environment stand apart, and leave the section and its settings in one
piece: none replaces the section, and none stands below a setting. -/
structure Environment.Fits (env : Environment) : Prop where
  apart : AllApart (overrides overrideStart env)
  keepsSection : ∀ o ∈ overrides overrideStart env, o.1 ≠ [Config.sectionName]
  keepsSettings : ∀ o ∈ overrides overrideStart env, ∀ k ∈ Config.settingKeys,
    [Config.sectionName, k.1] <+: o.1 → o.1 = [Config.sectionName, k.1]

namespace Config

/-- The setting that a text from the environment gives: none if it is empty, and truth values in lower
case. -/
def fromEnvironment? (s : String) : Option String :=
  if s = "" then none
  else if Text.lower s = "true" then some "true"
  else if Text.lower s = "false" then some "false"
  else some s

/-- The setting that a value from the file gives: none if it is an empty text once its placeholders are
replaced. -/
def fromFile? (env : Environment) (v : Value) : Option String :=
  match env.resolve v with
  | .text s => if s = "" then none else some s
  | .bool b => some (if b then "true" else "false")
  | other => some other.display

/-- The setting that a key gives if neither environment nor file has a value for it. -/
def fallback? (key : String) : Option String :=
  if key = "multi_tenancy" ∨ key = "insecure" then some "false" else none

/-- The setting that a key gives: from the environment, else from the file, else by default. -/
def resolved? (env : Environment) (file : Value) (key : String) : Option String :=
  match env.override? overrideStart [sectionName, key] with
  | some s => fromEnvironment? s
  | none =>
    match file.at? [sectionName, key] with
    | none | some .null => fallback? key
    | some v => fromFile? env v

/-- The settings that environment and file give together. -/
def resolvedSettings (env : Environment) (file : Value) : Mapping :=
  settingKeys.filterMap fun (key, name) => (resolved? env file key).map fun s => (.text name, .text s)

variable {env : Environment} {files : Files} {path : String} {tree v : Value} {entries : Mapping}
  {key name : String}

/-! ### The file -/

lemma keyed_fileValue (h : fileValue files path = .ok v) : Keyed v := by
  rw [fileValue] at h
  split at h
  · obtain ⟨found, hfound, rfl⟩ := except_map_eq_ok.mp h
    rw [Value.orElse]
    split
    · exact Yaml.keyed_ofBytes hfound
    · exact .nil
  · obtain rfl := Except.ok.inj h
    exact .nil

/-! ### The tree of the overrides -/

/-- No override stands at the section or on the way to it. -/
lemma not_prefix_section (henv : env.Fits) {o : Path × Value} (ho : o ∈ overrides overrideStart env) :
    ¬ o.1 <+: [sectionName] := by
  intro hbegins
  rcases List.prefix_cons_iff.mp hbegins with hnil | ⟨rest, hrest, hmore⟩
  · exact Environment.path_ne_nil_of_mem ho hnil
  · rw [List.prefix_nil.mp hmore] at hrest
    exact henv.keepsSection o ho hrest

lemma sectionAt_overrideTree (henv : env.Fits)
    (htree : env.overrideTree overrideStart = .ok (.map entries)) : entries.SectionAt sectionName := by
  intro v hv
  refine .inr (Environment.isOpenAt_insertAll htree (fun o ho => not_prefix_section henv ho)
    (Value.isOpenAt_empty _) v ?_)
  rw [Value.at?_map_cons, hv, Option.bind_some, Value.at?_nil]

/-- A setting that no variable gives is not in the tree. -/
lemma at?_overrideTree_of_not_gives (henv : env.Fits) (htree : env.overrideTree overrideStart = .ok tree)
    (hkey : (key, name) ∈ settingKeys) (hnot : ∀ s, ¬ env.Gives overrideStart [sectionName, key] s) :
    tree.at? [sectionName, key] = none := by
  rw [Environment.at?_insertAll_of_apart htree]
  · rfl
  intro o ho
  have hne : o.1 ≠ [sectionName, key] := by
    intro heq
    obtain ⟨s, hgives, -⟩ := Environment.mem_overrides.mp ho
    exact hnot s (heq ▸ hgives)
  refine ⟨fun hbegins => ?_, fun hbegins => hne (henv.keepsSettings o ho (key, name) hkey hbegins)⟩
  -- what leads to a setting is the setting itself, or leads to the section
  rcases List.prefix_concat_iff.mp (show o.1 <+: [sectionName] ++ [key] from hbegins) with heq | hsection
  · exact hne heq
  · exact not_prefix_section henv ho hsection

lemma at?_overrideTree (henv : env.Fits) (htree : env.overrideTree overrideStart = .ok tree)
    (hkey : (key, name) ∈ settingKeys) : tree.at? [sectionName, key] =
      (env.override? overrideStart [sectionName, key]).map Environment.coerce := by
  cases hfound : env.override? overrideStart [sectionName, key] with
  | none =>
    exact at?_overrideTree_of_not_gives henv htree hkey
      fun s => Environment.not_gives_of_override? hfound
  | some s => exact Environment.at?_overrideTree_of_override? henv.apart htree hfound

/-! ### Settings from values -/

lemma given?_coerce (s : String) :
    given? (Environment.coerce s) = (fromEnvironment? s).map .text := by
  rw [Environment.coerce, fromEnvironment?]
  by_cases hempty : s = ""
  · subst hempty
    decide
  · rw [if_neg hempty]
    by_cases htrue : Text.lower s = "true"
    · rw [if_pos (beq_iff_eq.mpr htrue), if_pos htrue]
      rfl
    · rw [if_neg (mt beq_iff_eq.mp htrue), if_neg htrue]
      by_cases hfalse : Text.lower s = "false"
      · rw [if_pos (beq_iff_eq.mpr hfalse), if_pos hfalse]
        rfl
      · rw [if_neg (mt beq_iff_eq.mp hfalse), if_neg hfalse, given?,
          if_neg (by simpa [Value.isNull] using hempty)]
        rfl

lemma given?_resolve (hnull : v.isNull = false) :
    given? (env.resolve v) = (fromFile? env v).map .text := by
  rw [← Environment.isNull_resolve env] at hnull
  rw [fromFile?]
  generalize env.resolve v = found at hnull
  cases found with
  | null => cases hnull
  | text s =>
    by_cases hempty : s = ""
    · subst hempty
      decide
    · rw [given?, if_neg (by simpa [Value.isNull] using hempty)]
      dsimp only
      rw [if_neg hempty]
      rfl
  | _ => simp [given?, Value.isNull, settingText]

/-- The section of the defaults. -/
def defaultSection : Mapping :=
  [(.text "type", .text ""), (.text "multi_tenancy", .bool false), (.text "insecure", .bool false)]

lemma given?_default (hkey : (key, name) ∈ settingKeys) :
    given? (defaultSection.getText key) = (fallback? key).map .text := by
  have hall : ∀ k ∈ settingKeys, given? (defaultSection.getText k.1) = (fallback? k.1).map .text := by
    decide
  exact hall (key, name) hkey

lemma isMap_default (key : String) : ((defaultSection.getText? key).getD .null).isMap = false := by
  cases hfound : defaultSection.getText? key with
  | none => rfl
  | some v =>
    have hall : ∀ e ∈ defaultSection, e.2.isMap = false := by decide
    exact hall _ (Mapping.mem_of_getText? hfound)

/-! ### The section -/

/-- The defaults, one mapping deep. -/
def defaultEntries : Mapping :=
  [(.text sectionName, .map defaultSection), (.text "log", .map [(.text "level", .text "INFO")])]

/-- The file is laid over the defaults, the environment over both. -/
lemma assemble_eq {more : Mapping} (htree : env.overrideTree overrideStart = .ok (.map more)) :
    assemble env (.map entries) =
      .ok ⟨mergeEntries (mergeEntries defaultEntries (env.resolveEntries entries)) more⟩ := by
  have hdefaults : defaults = .map defaultEntries := rfl
  rw [assemble, htree, hdefaults, Environment.resolve, merge_map]
  change (merge (.map (mergeEntries defaultEntries _)) (.map more) >>= _) = _
  rw [merge_map]
  rfl

/-- What a key of the section gives once file and environment have been laid over the defaults. -/
lemma given?_section {file more : Mapping} {fileValue : Value} (henv : env.Fits)
    (htree : env.overrideTree overrideStart = .ok tree) (hkey : (key, name) ∈ settingKeys)
    (hfile : Keyed (.map file)) (hmore : Keyed (.map more))
    (hfileAt : file.getText? key = (env.resolve fileValue).at? [sectionName, key])
    (hmoreAt : more.getText? key = tree.at? [sectionName, key]) :
    given? (Mapping.getText (mergeEntries (mergeEntries defaultSection file) more) key) =
      (resolved? env fileValue key).map .text := by
  rw [Mapping.getText_eq, getText?_mergeEntries hmore.distinct, getText?_mergeEntries hfile.distinct,
    hmoreAt, at?_overrideTree henv htree hkey, hfileAt, Environment.at?_resolve, resolved?]
  cases env.override? overrideStart [sectionName, key] with
  | some s =>
    rw [Option.map_some, laid?_eq_self (Environment.isNull_coerce s) (.inr (Environment.isMap_coerce s))]
    exact given?_coerce s
  | none =>
    rw [Option.map_none, laid?]
    cases hfound : fileValue.at? [sectionName, key] with
    | none => exact given?_default hkey
    | some v =>
      by_cases hnull : v = .null
      · subst hnull
        exact given?_default hkey
      · have hnot : v.isNull = false := by
          cases v <;> first | rfl | exact absurd rfl hnull
        rw [Option.map_some, laid?_eq_self ((Environment.isNull_resolve env v).trans hnot)
          (.inl (isMap_default key)), Option.getD_some, given?_resolve hnot]
        cases v <;> first | rfl | exact absurd rfl hnull

lemma settings_of_section {config : Config}
    (h : config.root.getText? sectionName = some (.map entries)) :
    config.settings = .ok (settingsOf entries) := by
  have hlookup : config.lookup [sectionName] = .map entries := by
    rw [lookup, toValue, Value.at?_map_cons, h, Option.bind_some, Value.at?_nil, Option.getD_some]
  rw [settings, hlookup]
  cases entries <;> rfl

lemma settingsOf_eq {file : Value} (h : ∀ key name, (key, name) ∈ settingKeys →
    given? (entries.getText key) = (resolved? env file key).map .text) :
    settingsOf entries = resolvedSettings env file := by
  refine List.filterMap_congr fun k hk => ?_
  obtain ⟨key, name⟩ := k
  dsimp only
  rw [setting?_eq, h key name hk, Option.map_map]
  rfl

/-- The settings of what is loaded: from the environment if a variable gives one, else from the file,
else by default. -/
theorem settings_of_load (hfile : fileValue files path = .ok (.map entries))
    (hsection : entries.SectionAt sectionName) (henv : env.Fits) :
    ∃ config, load files env path = .ok config ∧
      config.settings = .ok (resolvedSettings env (.map entries)) := by
  obtain ⟨tree, htree⟩ := Environment.exists_overrideTree henv.apart
  obtain ⟨overriding, rfl⟩ := Environment.overrideTree_eq_map htree
  have hresolved : Keyed (.map (env.resolveEntries entries)) :=
    Environment.keyed_resolve env (keyed_fileValue hfile)
  -- the file over the defaults
  have hdefault : defaultEntries.getText? sectionName = some (.map defaultSection) := rfl
  obtain ⟨file, hfileKeyed, hfileAt, hfileMerged⟩ :=
    exists_section hdefault hresolved (Environment.sectionAt_resolveEntries env hsection)
  -- the environment over both
  obtain ⟨more, hmoreKeyed, hmoreAt, hmerged⟩ :=
    exists_section hfileMerged (Environment.keyed_overrideTree htree) (sectionAt_overrideTree henv htree)
  refine ⟨⟨mergeEntries (mergeEntries defaultEntries (env.resolveEntries entries)) overriding⟩, ?_, ?_⟩
  · rw [load, hfile]
    exact assemble_eq htree
  · rw [settings_of_section hmerged]
    congr 1
    refine settingsOf_eq fun key name hkey => ?_
    exact given?_section henv htree hkey hfileKeyed hmoreKeyed (hfileAt key) (hmoreAt key)

/-- The environment sets one setting and removes another, one of the file takes a variable, and null in
the file is as if nothing stood there. -/
theorem settings_of_load_environment_over_file :
    let text := "metadata:\n  type: cloud\n  region: ${REGION|eu}\n  insecure: null\n  ca_certs: ca.pem\n"
    let env : Environment := [("REMETA_METADATA__TYPE", "remote"), ("REMETA_METADATA__CA_CERTS", ""),
      ("REMETA_METADATA__MULTI_TENANCY", "TRUE"), ("REGION", "us")]
    env.Fits ∧ ∃ config, load [("config.yml", text.toUTF8)] env "config.yml" = .ok config ∧
      config.settings = .ok [(.text "metadata-type", .text "remote"), (.text "region", .text "us"),
        (.text "multi-tenancy", .text "true"), (.text "insecure", .text "false")] := by
  intro text env
  let inner : Mapping := [(.text "type", .text "cloud"), (.text "region", .text "${REGION|eu}"),
    (.text "insecure", .null), (.text "ca_certs", .text "ca.pem")]
  have hfile : fileValue [("config.yml", text.toUTF8)] "config.yml" =
      .ok (.map [(.text sectionName, .map inner)]) := by decide +kernel
  have hsection : Mapping.SectionAt [(.text sectionName, .map inner)] sectionName := by
    intro v hv
    exact .inr ⟨inner, (Option.some.inj hv).symm⟩
  have henv : env.Fits := ⟨by decide +kernel, by decide +kernel, by decide +kernel⟩
  obtain ⟨config, hload, hsettings⟩ := settings_of_load hfile hsection henv
  refine ⟨henv, config, hload, hsettings.trans (congrArg Except.ok ?_)⟩
  decide +kernel

end Config
end Metastore
