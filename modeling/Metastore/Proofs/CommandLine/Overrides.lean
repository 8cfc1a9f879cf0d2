import Metastore.CommandLine
import Metastore.Proofs.Config.Settings
import Metastore.Proofs.Value.Keyed
import Metastore.Proofs.Value.Plain

/-!
# Changes of settings

A change is a text with an equals sign: the name of a setting before the first one, and its value after
it. Changes are made one after another, so the last one for a name counts (`CommandLine.overlaid_foldlM`).
A text without an equals sign is no change, and ends the command.
-/

namespace Metastore

namespace Config

variable {entries : Mapping} {keys : List (String × String)}

/-- What is given is a text under one of the names. -/
lemma mem_settingsBy {e : Value × Value} (h : e ∈ settingsBy entries keys) :
    ∃ key name value, (key, name) ∈ keys ∧ e = (.text name, .text value) := by
  obtain ⟨⟨key, name⟩, hkey, hsetting⟩ := List.mem_filterMap.mp h
  dsimp only at hsetting
  rw [setting?_eq, Option.map_eq_some_iff] at hsetting
  obtain ⟨v, hgiven, rfl⟩ := hsetting
  rw [given?] at hgiven
  split at hgiven
  · cases hgiven
  · obtain rfl := Option.some.inj hgiven
    exact ⟨key, name, _, hkey, rfl⟩

/-- Where names are different, so are the settings that are given. -/
lemma isNamed_settingsBy (hnames : (keys.map (·.2)).Nodup) : (settingsBy entries keys).IsNamed := by
  constructor
  · intro e he
    obtain ⟨key, name, value, -, rfl⟩ := mem_settingsBy he
    exact ⟨name, rfl⟩
  · induction keys with
    | nil => exact List.nodup_nil
    | cons first rest ih =>
      obtain ⟨firstKey, firstName⟩ := first
      rw [List.map_cons, List.nodup_cons] at hnames
      rw [settingsBy_cons]
      split
      · refine List.nodup_cons.mpr ⟨fun hmem => ?_, ih hnames.2⟩
        obtain ⟨e, he, heq⟩ := List.mem_map.mp hmem
        obtain ⟨key, name, value, hkey, rfl⟩ := mem_settingsBy he
        obtain rfl : name = firstName := Value.text.inj heq
        exact hnames.1 (List.mem_map.mpr ⟨(key, name), hkey, rfl⟩)
      · exact ih hnames.2

end Config

namespace CommandLine

/-- Whether the entries of a mapping are settings: texts under different names. -/
structure AreSettings (settings : Mapping) : Prop where
  isNamed : settings.IsNamed
  isText : ∀ e ∈ settings, ∃ value, e.2 = .text value

namespace AreSettings

variable {settings : Mapping}

lemma plain_of_mem (h : AreSettings settings) {e : Value × Value} (he : e ∈ settings) : e.2.Plain := by
  obtain ⟨value, hvalue⟩ := h.isText e he
  rw [hvalue]
  exact .text value

lemma plain (h : AreSettings settings) : (Value.map settings).Plain :=
  .map h.isNamed.texts (fun _ => h.plain_of_mem) h.isNamed.distinct

/-- A setting is a text, or not set. -/
lemma plain_getText (h : AreSettings settings) (name : String) : (settings.getText name).Plain := by
  rw [Mapping.getText, Mapping.get]
  cases hfound : settings.get? (.text name) with
  | none => exact .null
  | some v => exact h.plain_of_mem (Mapping.mem_of_getText? hfound)

lemma setText (h : AreSettings settings) (name value : String) :
    AreSettings (settings.setText name (.text value)) := by
  refine ⟨h.isNamed.setText name (.text value), fun e he => ?_⟩
  rcases Mapping.mem_setText h.isNamed.distinct he with rfl | ⟨hmem, -⟩
  · exact ⟨value, rfl⟩
  · exact h.isText e hmem

end AreSettings

lemma areSettings_of_settings {config : Config} {settings : Mapping}
    (h : config.settings = .ok settings) : AreSettings settings := by
  obtain ⟨entries, rfl, -⟩ := Config.settings_eq_ok h
  refine ⟨Config.isNamed_settingsBy (by decide), fun e he => ?_⟩
  obtain ⟨key, name, value, -, rfl⟩ := Config.mem_settingsBy he
  exact ⟨value, rfl⟩

/-! ### One change -/

/-- Whether a text is a change of a setting. -/
def IsChange (text : String) : Prop := '=' ∈ text.toList

/-- The name of the setting that a text changes: what stands before the first equals sign, trimmed. -/
def nameIn (text : String) : String :=
  Text.trim (String.ofList (text.toList.takeWhile (· != '=')))

/-- The value that a text gives a setting: all that stands after the first equals sign. -/
def valueIn (text : String) : String :=
  String.ofList (text.toList.dropWhile (· != '=')).tail

lemma override_of_isChange {text : String} (h : IsChange text) (settings : Mapping) :
    override settings text = .ok (settings.setText (nameIn text) (.text (valueIn text))) := by
  have hrest : text.toList.dropWhile (· != '=') ≠ [] := by
    rw [Ne, List.dropWhile_eq_nil_iff]
    exact fun hnone => absurd (hnone '=' h) (by decide)
  obtain ⟨c, rest, hcons⟩ := List.exists_cons_of_ne_nil hrest
  simp only [override, Text.cutAt, nameIn, valueIn, Text.trim, hcons, String.toList_ofList,
    List.tail_cons]

lemma override_of_not_isChange {text : String} (h : ¬ IsChange text) (settings : Mapping) :
    override settings text = .error (.badOverride text) := by
  have hrest : text.toList.dropWhile (· != '=') = [] := by
    rw [List.dropWhile_eq_nil_iff]
    intro c hc
    rw [bne_iff_ne]
    rintro rfl
    exact h hc
  simp only [override, Text.cutAt, hrest]

/-! ### Changes in turn -/

/-- The value that the last change for a name gives. -/
def lastChange? (texts : List String) (name : String) : Option String :=
  (texts.reverse.find? (nameIn · == name)).map valueIn

lemma lastChange?_cons (text : String) (rest : List String) (name : String) :
    lastChange? (text :: rest) name =
      (lastChange? rest name).or (if nameIn text = name then some (valueIn text) else none) := by
  rw [lastChange?, List.reverse_cons, List.find?_append, lastChange?]
  cases rest.reverse.find? (nameIn · == name) with
  | some found => rfl
  | none =>
    by_cases hname : nameIn text = name
    · simp [hname]
    · simp [hname]

/-- Whether settings are what changes make of others: a setting has the value of the last change for it,
or the one that it had. -/
structure Overlaid (base : Mapping) (texts : List String) (settings : Mapping) : Prop
    extends AreSettings settings where
  getText?_eq : ∀ name,
    settings.getText? name = ((lastChange? texts name).map .text).or (base.getText? name)

/-- Changes can be made one after another, and the last one for a name counts. -/
lemma overlaid_foldlM {base : Mapping} (hbase : AreSettings base) {texts : List String}
    (h : ∀ text ∈ texts, IsChange text) :
    ∃ settings, texts.foldlM override base = .ok settings ∧ Overlaid base texts settings := by
  induction texts generalizing base with
  | nil => exact ⟨base, rfl, hbase, fun name => rfl⟩
  | cons text rest ih =>
    obtain ⟨htext, hrest⟩ := List.forall_mem_cons.mp h
    obtain ⟨settings, hfold, hsettings⟩ :=
      ih (hbase.setText (nameIn text) (valueIn text)) hrest
    refine ⟨settings, ?_, hsettings.toAreSettings, fun name => ?_⟩
    · rw [List.foldlM_cons, override_of_isChange htext]
      exact hfold
    · rw [hsettings.getText?_eq, lastChange?_cons]
      cases lastChange? rest name with
      | some value => rfl
      | none =>
        by_cases hname : nameIn text = name
        · simp [hname]
        · simp [hname, Mapping.getText?_setText_of_ne]

/-- The first text that is no change is the one that is complained of. -/
lemma foldlM_override_of_not_isChange (base : Mapping) {texts : List String}
    (h : ∃ text ∈ texts, ¬ IsChange text) :
    ∃ before text rest, texts = before ++ text :: rest ∧ (∀ change ∈ before, IsChange change) ∧
      ¬ IsChange text ∧ texts.foldlM override base = .error (.badOverride text) := by
  induction texts generalizing base with
  | nil =>
    obtain ⟨text, htext, -⟩ := h
    cases htext
  | cons first more ih =>
    by_cases hfirst : IsChange first
    · have hmore : ∃ text ∈ more, ¬ IsChange text := by
        obtain ⟨text, htext, hnot⟩ := h
        rcases List.mem_cons.mp htext with rfl | hmem
        · exact absurd hfirst hnot
        · exact ⟨text, hmem, hnot⟩
      obtain ⟨before, text, rest, rfl, hbefore, hnot, hfold⟩ :=
        ih (base.setText (nameIn first) (.text (valueIn first))) hmore
      refine ⟨first :: before, text, rest, rfl, List.forall_mem_cons.mpr ⟨hfirst, hbefore⟩, hnot, ?_⟩
      rw [List.foldlM_cons, override_of_isChange hfirst]
      exact hfold
    · refine ⟨[], first, more, rfl, by simp, hfirst, ?_⟩
      rw [List.foldlM_cons, override_of_not_isChange hfirst]
      rfl

end CommandLine
end Metastore
