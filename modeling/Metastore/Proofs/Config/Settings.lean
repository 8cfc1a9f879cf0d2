import Metastore.Config.Settings
import Metastore.Proofs.Action
import Metastore.Proofs.Text.Words

/-!
# Settings of the section

The settings that the section of a configuration gives: each key of the section gives the setting of its
own name by its own value, and nothing else is given.
-/

namespace Metastore.Config

/-- The setting that a value of the section gives, if it gives one. -/
def given? (v : Value) : Option Value :=
  if v.isNull || v == .text "" then none else some (.text (settingText v))

variable {entries : Mapping} {key name : String} {keys : List (String × String)}

lemma setting?_eq (entries : Mapping) (key name : String) :
    setting? entries key name = (given? (entries.getText key)).map fun v => (.text name, v) := by
  rw [setting?, given?]
  split <;> rfl

/-- The settings that some keys of the section give. -/
def settingsBy (entries : Mapping) (keys : List (String × String)) : Mapping :=
  keys.filterMap fun (key, name) => setting? entries key name

lemma settingsBy_cons (entries : Mapping) (key name : String) (rest : List (String × String)) :
    settingsBy entries ((key, name) :: rest) = match given? (entries.getText key) with
      | some v => (.text name, v) :: settingsBy entries rest
      | none => settingsBy entries rest := by
  rw [settingsBy, List.filterMap_cons]
  dsimp only
  rw [setting?_eq]
  cases given? (entries.getText key) <;> rfl

lemma getText?_of_not_named (h : name ∉ keys.map (·.2)) :
    (settingsBy entries keys).getText? name = none := by
  induction keys with
  | nil => rfl
  | cons first rest ih =>
    obtain ⟨firstKey, firstName⟩ := first
    rw [List.map_cons, List.mem_cons, not_or] at h
    have hne : firstName ≠ name := Ne.symm h.1
    have hrest := ih h.2
    rw [settingsBy_cons]
    cases given? (entries.getText firstKey) with
    | none => exact hrest
    | some v => simpa [Mapping.getText?, hne] using hrest

/-- Where names are different, each is given by its own key. -/
lemma getText?_of_named (hnames : (keys.map (·.2)).Nodup) (h : (key, name) ∈ keys) :
    (settingsBy entries keys).getText? name = given? (entries.getText key) := by
  induction keys with
  | nil => cases h
  | cons first rest ih =>
    obtain ⟨firstKey, firstName⟩ := first
    rw [List.map_cons, List.nodup_cons] at hnames
    rw [settingsBy_cons]
    rcases List.mem_cons.mp h with heq | hrest
    · obtain ⟨rfl, rfl⟩ := Prod.mk.inj heq
      cases given? (entries.getText key) with
      | none => exact getText?_of_not_named hnames.1
      | some v => simp [Mapping.getText?]
    · have hfound := ih hnames.2 hrest
      have hmem : name ∈ rest.map (·.2) := List.mem_map.mpr ⟨(key, name), hrest, rfl⟩
      have hne : firstName ≠ name := fun heq => hnames.1 (heq ▸ hmem)
      cases given? (entries.getText firstKey) with
      | none => exact hfound
      | some v => simpa [Mapping.getText?, hne] using hfound

lemma getText?_settingsOf (h : (key, name) ∈ settingKeys) (entries : Mapping) :
    (settingsOf entries).getText? name = given? (entries.getText key) :=
  getText?_of_named (by decide) h

/-- The settings of a configuration are those of its section. -/
lemma settings_eq_ok {config : Config} {settings : Mapping} (h : config.settings = .ok settings) :
    ∃ entries : Mapping, settings = settingsOf entries ∧
      ∀ key, entries.getText key = config.lookup [sectionName, key] := by
  obtain ⟨entries, hmembers, heq⟩ := except_bind_eq_ok.mp h
  obtain rfl := Except.ok.inj heq
  refine ⟨entries, rfl, fun key => ?_⟩
  have hsection (key : String) : config.lookup [sectionName, key] =
      ((config.lookup [sectionName]).at? [key]).getD .null := by
    simp only [lookup, toValue, Value.at?]
    cases Mapping.getText? config.root sectionName <;> rfl
  rw [hsection]
  generalize config.lookup [sectionName] = v at hmembers
  -- a section that counts as nothing has no entries, and nothing is found in it either
  cases htruthy : v.truthy with
  | true =>
    rw [Value.orElse, htruthy, if_pos rfl] at hmembers
    cases v with
    | map found =>
      obtain rfl : found = entries := Except.ok.inj hmembers
      rw [Value.at?, Mapping.getText, Mapping.get, ← Mapping.getText?]
      cases Mapping.getText? found key <;> rfl
    | _ => cases hmembers
  | false =>
    rw [Value.orElse, htruthy, if_neg Bool.false_ne_true] at hmembers
    obtain rfl : [] = entries := Except.ok.inj hmembers
    cases v with
    | map found =>
      obtain rfl : found = [] := by simpa [Value.truthy] using htruthy
      rfl
    | _ => rfl

/-- Only the truth value and the word for it are given as the word. -/
lemma lower_settingText {v : Value} (h : Text.lower (settingText v) = "true") :
    v = .bool true ∨ ∃ s, v = .text s ∧ Text.lower s = "true" := by
  rw [settingText.eq_def] at h
  split at h
  · next b =>
    cases b with
    | true => exact .inl rfl
    | false => exact absurd h (by decide)
  · next hbool =>
    rcases Value.lower_display h with rfl | ⟨s, rfl⟩
    · exact absurd rfl (hbool true)
    · exact .inr ⟨s, rfl, h⟩

/-- A switch is on if its value is the truth value, or the word for it in some letter case. -/
lemma isOn_given? (v : Value) : Setting.isOn ((given? v).getD .null) = true ↔
    v = .bool true ∨ ∃ s, v = .text s ∧ Text.lower s = "true" := by
  constructor
  · intro h
    rw [given?] at h
    split at h
    · cases h
    · rw [Option.getD_some, Setting.isOn, Bool.and_eq_true, beq_iff_eq] at h
      exact lower_settingText h.2
  · rintro (rfl | ⟨s, rfl, hlower⟩)
    · decide
    · have hne : s ≠ "" := by
        rintro rfl
        exact absurd hlower (by decide)
      have hgiven : given? (.text s) = some (.text s) := by
        rw [given?, if_neg (by simpa [Value.isNull] using hne)]
        rfl
      simpa [hgiven, Setting.isOn, Value.isNull, Value.display] using hlower

end Metastore.Config
