import Mathlib
import Metastore.Value.Mapping

/-!
# Entries of mappings

What is read at a key after it was set, and mappings with different keys (`Mapping.Distinct`), different texts
among them: each entry is found under its key, and setting the entries one after another gives them again.
-/

namespace Metastore

/-- What may stand as a key names the same entry as itself. -/
lemma Value.isSameKey_self {key : Value} (h : key.isKey = true) : key.isSameKey key = true := by
  cases key with
  | list items => cases h
  | entry first second => cases h
  | map entries => cases h
  | bool b => simp [isSameKey, sameNumber, asInt?]
  | int n => simp [isSameKey, sameNumber, asInt?]
  | _ => simp [isSameKey]

namespace Mapping

variable {m pairs : Mapping} {key : Value}

lemma get?_set_self (h : key.isKey = true) (m : Mapping) (value : Value) :
    (m.set key value).get? key = some value := by
  induction m with
  | nil => rw [set, get?_cons, Value.isSameKey_self h, if_pos rfl]
  | cons e rest ih =>
    obtain ⟨k, v⟩ := e
    rw [set]
    split
    · next hsame => rw [get?_cons, if_pos hsame]
    · next hother => rw [get?_cons, if_neg hother, ih]

/-- A key that no entry has is added at the end. -/
lemma set_of_not_has (h : ∀ e ∈ m, e.1.isSameKey key = false) (value : Value) :
    m.set key value = m ++ [(key, value)] := by
  induction m with
  | nil => rfl
  | cons e rest ih =>
    obtain ⟨k, v⟩ := e
    have hk : k.isSameKey key = false := h (k, v) List.mem_cons_self
    rw [set, hk, if_neg Bool.false_ne_true, ih fun e he => h e (List.mem_cons_of_mem _ he),
      List.cons_append]

/-! ### Different keys -/

/-- Whether no two entries have the same key. -/
def Distinct (m : Mapping) : Prop := m.Pairwise fun a b => a.1.isSameKey b.1 = false

instance : DecidablePred Distinct := fun _ => inferInstanceAs (Decidable (List.Pairwise _ _))

/-- Entries with different keys that are set one after another come one after another. -/
lemma Distinct.setAll (h : Distinct (m ++ pairs)) : m.setAll pairs = m ++ pairs := by
  induction pairs generalizing m with
  | nil => simp [Mapping.setAll]
  | cons e rest ih =>
    have hnew : ∀ old ∈ m, old.1.isSameKey e.1 = false := by
      intro old hold
      exact (List.pairwise_append.mp h).2.2 old hold e List.mem_cons_self
    have hstep : m.setAll (e :: rest) = Mapping.setAll (m ++ [e]) rest := by
      simp only [Mapping.setAll, List.foldl_cons, set_of_not_has hnew]
    rw [hstep, ih (by simpa using h), List.append_assoc, List.singleton_append]

/-- In a mapping with different keys every entry is found under its key. -/
lemma Distinct.get?_of_mem {e : Value × Value} (h : m.Distinct) (he : e ∈ m) (hkey : e.1.isKey = true) :
    m.get? e.1 = some e.2 := by
  induction m with
  | nil => cases he
  | cons first rest ih =>
    obtain ⟨k, v⟩ := first
    obtain ⟨hfirst, hrest⟩ := List.pairwise_cons.mp h
    rw [get?_cons]
    rcases List.mem_cons.mp he with rfl | hmem
    · rw [Value.isSameKey_self hkey, if_pos rfl]
    · rw [hfirst e hmem, if_neg Bool.false_ne_true, ih hrest hmem]

/-! ### Different texts as keys -/

lemma distinct_of_texts (hkeys : ∀ e ∈ m, ∃ name, e.1 = .text name) (hdistinct : (m.map (·.1)).Nodup) :
    m.Distinct := by
  refine (List.pairwise_map.mp hdistinct).imp_of_mem fun {a b} _ hb hne => ?_
  refine Bool.eq_false_iff.mpr fun hsame => hne ?_
  obtain ⟨name, hname⟩ := hkeys b hb
  rw [hname] at hsame ⊢
  exact eq_text_of_isSameKey hsame

/-- Pairs with different texts as keys are the entries of their mapping. -/
lemma ofPairs_of_distinct (hkeys : ∀ e ∈ pairs, ∃ name, e.1 = .text name)
    (hdistinct : (pairs.map (·.1)).Nodup) : ofPairs pairs = pairs :=
  Distinct.setAll (distinct_of_texts hkeys hdistinct)

/-- Where the keys are different texts, every entry is found under its key. -/
lemma get?_of_mem (hkeys : ∀ e ∈ m, ∃ name, e.1 = .text name)
    (hdistinct : (m.map (·.1)).Nodup) {e : Value × Value} (he : e ∈ m) : m.get? e.1 = some e.2 := by
  obtain ⟨name, hname⟩ := hkeys e he
  exact (distinct_of_texts hkeys hdistinct).get?_of_mem he (by rw [hname]; rfl)

/-- Whether a text has an entry shows in the keys. -/
lemma isSome_get?_text (m : Mapping) (name : String) :
    (m.get? (.text name)).isSome ↔ ∃ e ∈ m, e.1 = .text name := by
  simp only [get?, Option.isSome_map, List.find?_isSome]
  constructor
  · rintro ⟨e, he, hsame⟩
    exact ⟨e, he, eq_text_of_isSameKey hsame⟩
  · rintro ⟨e, he, hname⟩
    exact ⟨e, he, by rw [hname, Value.isSameKey_self_text]⟩

lemma length_set (m : Mapping) (key value : Value) :
    (m.set key value).length = if (m.get? key).isSome then m.length else m.length + 1 := by
  induction m with
  | nil => rfl
  | cons e rest ih =>
    obtain ⟨k, v⟩ := e
    rw [set, get?_cons]
    by_cases hk : k.isSameKey key
    · simp [hk]
    · simp only [hk, if_false, List.length_cons, ih, Bool.false_eq_true]
      split <;> rfl

/-- The entries after a text was set: its own, and the others as they were. -/
lemma mem_setText (hdistinct : (m.map (·.1)).Nodup) {name : String} {value : Value}
    {e : Value × Value} (he : e ∈ m.setText name value) :
    e = (.text name, value) ∨ e ∈ m ∧ e.1 ≠ .text name := by
  induction m with
  | nil => exact .inl (List.mem_singleton.mp he)
  | cons first rest ih =>
    obtain ⟨k, v⟩ := first
    rw [List.map_cons, List.nodup_cons] at hdistinct
    rw [setText, set] at he
    by_cases hk : k = .text name
    · rw [hk, Value.isSameKey_self_text, if_pos rfl] at he
      rcases List.mem_cons.mp he with rfl | hrest
      · exact .inl rfl
      · refine .inr ⟨List.mem_cons_of_mem _ hrest, fun hname => hdistinct.1 ?_⟩
        exact List.mem_map.mpr ⟨e, hrest, hname.trans hk.symm⟩
    · rw [if_neg fun hsame => hk (eq_text_of_isSameKey hsame)] at he
      rcases List.mem_cons.mp he with rfl | hrest
      · exact .inr ⟨List.mem_cons_self, hk⟩
      · rcases ih hdistinct.2 hrest with hnew | ⟨hmem, hne⟩
        · exact .inl hnew
        · exact .inr ⟨List.mem_cons_of_mem _ hmem, hne⟩

/-! ### Erasing -/

lemma erase_erase (m : Mapping) (key : Value) : (m.erase key).erase key = m.erase key := by
  simp [erase]

/-- What is set at a text goes when the text is erased. -/
lemma erase_setText_self (m : Mapping) (name : String) (value : Value) :
    (m.setText name value).erase (.text name) = m.erase (.text name) := by
  induction m with
  | nil => simp [setText, set, erase]
  | cons e rest ih =>
    obtain ⟨k, v⟩ := e
    rw [setText] at ih ⊢
    by_cases hk : k.isSameKey (.text name) = true
    · simp [set, erase, hk]
    · rw [erase] at ih ⊢
      simp [set, hk, ih, erase]

/-! ### Mappings whose keys are different texts -/

variable {name : String}

/-- Whether different texts are the keys of a mapping. -/
structure IsNamed (m : Mapping) : Prop where
  texts : ∀ e ∈ m, ∃ name, e.1 = .text name
  distinct : (m.map (·.1)).Nodup

lemma isNamed_single (name : String) (v : Value) : IsNamed [(.text name, v)] := by
  constructor
  · intro e he
    exact ⟨name, by rw [List.mem_singleton.mp he]⟩
  · exact List.nodup_singleton _

lemma IsNamed.erase (h : m.IsNamed) (key : Value) : (m.erase key).IsNamed := by
  have hsublist : List.Sublist (m.erase key) m := List.filter_sublist
  constructor
  · intro e he
    exact h.texts e (hsublist.subset he)
  · exact h.distinct.sublist (hsublist.map (·.1))

/-- Setting a text adds it to the keys unless it is one of them. -/
lemma keys_setText (m : Mapping) (name : String) (v : Value) :
    (m.setText name v).map (·.1) =
      if (m.getText? name).isSome then m.map (·.1) else m.map (·.1) ++ [.text name] := by
  induction m with
  | nil => rfl
  | cons e rest ih =>
    obtain ⟨k, w⟩ := e
    rw [setText, set, getText?, get?_cons]
    by_cases hk : k.isSameKey (.text name) = true
    · simp [hk]
    · rw [if_neg hk, if_neg hk, List.map_cons]
      rw [setText, getText?] at ih
      rw [ih]
      split <;> simp

lemma IsNamed.setText (h : m.IsNamed) (name : String) (v : Value) : (m.setText name v).IsNamed := by
  constructor
  · intro e he
    rcases mem_setText h.distinct he with rfl | ⟨hmem, -⟩
    · exact ⟨name, rfl⟩
    · exact h.texts e hmem
  · rw [keys_setText]
    split
    · exact h.distinct
    · next hnone =>
      rw [List.nodup_append]
      refine ⟨h.distinct, List.nodup_singleton _, ?_⟩
      rintro key hkey _ hname rfl
      obtain ⟨e, he, rfl⟩ := List.mem_map.mp hkey
      apply hnone
      exact (isSome_get?_text m name).mpr ⟨e, he, List.mem_singleton.mp hname⟩

/-- A text that was added to the keys can be taken away again. -/
lemma erase_setText (h : m.getText? name = none) (v : Value) :
    (m.setText name v).erase (.text name) = m := by
  have hother : ∀ e ∈ m, e.1.isSameKey (.text name) = false := by
    intro e he
    by_contra hsame
    have hsome : (m.get? (.text name)).isSome := by
      rw [isSome_get?_text]
      exact ⟨e, he, eq_text_of_isSameKey (by simpa using hsame)⟩
    rw [getText?] at h
    simp [h] at hsome
  rw [erase_setText_self, Mapping.erase, List.filter_eq_self]
  intro e he
  simp [hother e he]

end Mapping
end Metastore
