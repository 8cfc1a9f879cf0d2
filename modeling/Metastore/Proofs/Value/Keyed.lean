import Metastore.Proofs.Value.Mapping

/-!
# Mappings with different keys

In a mapping that was put together by setting entries, no two entries have the same key
(`Mapping.Distinct.set`), so the entry that is found at a key is the only one. `Value.Keyed` says so of
every mapping that is reached through mappings.
-/

namespace Metastore

namespace Mapping

variable {m : Mapping} {e : Value × Value} {key value : Value} {name : String}

/-- The entries after one was set: the new value, at its key or at one that was there, and the others as
they were. -/
lemma mem_set (h : e ∈ m.set key value) :
    (e.2 = value ∧ (e.1 = key ∨ ∃ old ∈ m, old.1 = e.1)) ∨ e ∈ m := by
  induction m with
  | nil =>
    obtain rfl := List.mem_singleton.mp h
    exact .inl ⟨rfl, .inl rfl⟩
  | cons first rest ih =>
    obtain ⟨k, v⟩ := first
    rw [set] at h
    split at h
    · rcases List.mem_cons.mp h with rfl | hrest
      · exact .inl ⟨rfl, .inr ⟨(k, v), List.mem_cons_self, rfl⟩⟩
      · exact .inr (List.mem_cons_of_mem _ hrest)
    · rcases List.mem_cons.mp h with rfl | hrest
      · exact .inr List.mem_cons_self
      · rcases ih hrest with ⟨hvalue, hkey⟩ | hmem
        · refine .inl ⟨hvalue, hkey.imp id ?_⟩
          rintro ⟨old, hold, hsame⟩
          exact ⟨old, List.mem_cons_of_mem _ hold, hsame⟩
        · exact .inr (List.mem_cons_of_mem _ hmem)

lemma Distinct.set (h : m.Distinct) (key value : Value) : (m.set key value).Distinct := by
  induction m with
  | nil => exact List.pairwise_singleton _ _
  | cons first rest ih =>
    obtain ⟨k, v⟩ := first
    obtain ⟨hfirst, hrest⟩ := List.pairwise_cons.mp h
    rw [Mapping.set]
    split
    · exact List.pairwise_cons.mpr ⟨hfirst, hrest⟩
    · next hother =>
      refine List.pairwise_cons.mpr ⟨fun e he => ?_, ih hrest⟩
      rcases mem_set he with ⟨-, hkey | ⟨old, hold, hsame⟩⟩ | hmem
      · rw [hkey]
        exact Bool.eq_false_iff.mpr hother
      · rw [← hsame]
        exact hfirst old hold
      · exact hfirst e hmem

/-! ### Text keys -/

lemma getText?_cons (k v : Value) (rest : Mapping) (name : String) :
    getText? ((k, v) :: rest) name = if k.isSameKey (.text name) then some v else rest.getText? name :=
  get?_cons k v rest (.text name)

lemma getText_eq (m : Mapping) (name : String) : m.getText name = (m.getText? name).getD .null := rfl

lemma mem_of_getText? {v : Value} (h : m.getText? name = some v) : (.text name, v) ∈ m := by
  rw [getText?, get?, Option.map_eq_some_iff] at h
  obtain ⟨⟨k, w⟩, hfind, rfl⟩ := h
  have hsame := List.find?_some hfind
  obtain rfl : k = .text name := eq_text_of_isSameKey hsame
  exact List.mem_of_find?_eq_some hfind

end Mapping

/-- A value in which every mapping that is reached through mappings has different keys. -/
inductive Value.Keyed : Value → Prop where
  | other {v : Value} (h : v.isMap = false) : Keyed v
  | map {entries : Mapping} (hdistinct : entries.Distinct) (hvalues : ∀ e ∈ entries, Keyed e.2) :
    Keyed (.map entries)

namespace Value.Keyed

variable {entries : Mapping}

lemma nil : Keyed (.map []) := .map List.Pairwise.nil (by simp)

lemma distinct (h : Keyed (.map entries)) : entries.Distinct := by
  cases h with
  | other h => cases h
  | map hdistinct hvalues => exact hdistinct

lemma of_mem (h : Keyed (.map entries)) {e : Value × Value} (he : e ∈ entries) : Keyed e.2 := by
  cases h with
  | other h => cases h
  | map hdistinct hvalues => exact hvalues e he

lemma of_getText? (h : Keyed (.map entries)) {name : String} {v : Value}
    (hv : entries.getText? name = some v) : Keyed v :=
  h.of_mem (Mapping.mem_of_getText? hv)

lemma set (h : Keyed (.map entries)) (key : Value) {value : Value} (hvalue : Keyed value) :
    Keyed (.map (entries.set key value)) := by
  refine .map (h.distinct.set key value) fun e he => ?_
  rcases Mapping.mem_set he with ⟨heq, -⟩ | hmem
  · rw [heq]
    exact hvalue
  · exact h.of_mem hmem

end Value.Keyed
end Metastore
