import Metastore.Proofs.Value.Mapping

/-!
# Plain data

Plain values are the JSON values without floating-point numbers: mappings have different texts as
keys. The order of entries is no part of a mapping's meaning, and `Value.sorted` chooses one for
every mapping in a value.
-/

namespace Metastore.Value

/-- A JSON value without floating-point numbers. -/
inductive Plain : Value → Prop where
  | null : Plain .null
  | bool (b : Bool) : Plain (.bool b)
  | int (n : Int) : Plain (.int n)
  | text (s : String) : Plain (.text s)
  | list {items : List Value} (hitems : ∀ v ∈ items, Plain v) : Plain (.list items)
  | map {entries : Mapping} (hkeys : ∀ e ∈ entries, ∃ name, e.1 = .text name)
      (hvalues : ∀ e ∈ entries, Plain e.2) (hdistinct : (entries.map (·.1)).Nodup) :
      Plain (.map entries)

namespace Plain

variable {entries : Mapping}

lemma isNamed (h : Plain (.map entries)) : entries.IsNamed := by
  cases h with
  | map hkeys hvalues hdistinct => exact ⟨hkeys, hdistinct⟩

lemma of_mem (h : Plain (.map entries)) {e : Value × Value} (he : e ∈ entries) : Plain e.2 := by
  cases h with
  | map hkeys hvalues hdistinct => exact hvalues e he

lemma setText (h : Plain (.map entries)) (name : String) {v : Value} (hv : Plain v) :
    Plain (.map (entries.setText name v)) := by
  have hnamed := h.isNamed.setText name v
  refine .map hnamed.texts (fun e he => ?_) hnamed.distinct
  rcases Mapping.mem_setText h.isNamed.distinct he with rfl | ⟨hmem, -⟩
  · exact hv
  · exact h.of_mem hmem

end Plain

/-- The text of a key. -/
def keyName (key : Value) : String := key.text?.getD ""

/-- Whether one entry comes before another in the order of keys. -/
def keyLe (a b : Value × Value) : Bool := decide (keyName a.1 ≤ keyName b.1)

mutual

/-- A value with the entries of every mapping in the order of their keys. -/
def sorted : Value → Value
  | .list items => .list (sortedItems items)
  | .map entries => .map ((sortedEntries entries).mergeSort keyLe)
  | v => v

/-- A list of values, each sorted. -/
def sortedItems : List Value → List Value
  | [] => []
  | v :: rest => sorted v :: sortedItems rest

/-- A list of entries whose values are sorted. -/
def sortedEntries : List (Value × Value) → List (Value × Value)
  | [] => []
  | (k, v) :: rest => (k, sorted v) :: sortedEntries rest

end

lemma sortedItems_eq_map (items : List Value) : sortedItems items = items.map sorted := by
  induction items with
  | nil => rfl
  | cons v rest ih => rw [sortedItems, ih, List.map_cons]

lemma sortedEntries_eq_map (entries : List (Value × Value)) :
    sortedEntries entries = entries.map fun e => (e.1, e.2.sorted) := by
  induction entries with
  | nil => rfl
  | cons e rest ih =>
    obtain ⟨k, v⟩ := e
    rw [sortedEntries, ih, List.map_cons]

/-- Sorting the entries and sorting their values commute. -/
lemma sorted_map (entries : Mapping) :
    (Value.map entries).sorted =
      .map ((entries.mergeSort keyLe).map fun e => (e.1, e.2.sorted)) := by
  rw [sorted, sortedEntries_eq_map, List.map_mergeSort]
  intro a _ b _
  rfl

lemma sameItems_map {items : List Value} (h : ∀ v ∈ items, v.sorted.same v = true) :
    sameItems (items.map sorted) items = true := by
  induction items with
  | nil => rw [List.map_nil, sameItems]
  | cons v rest ih =>
    rw [List.map_cons, sameItems, h v List.mem_cons_self,
      ih fun v hv => h v (List.mem_cons_of_mem _ hv)]
    rfl

lemma sameEntries_of_forall {entries : List (Value × Value)} {others : Mapping}
    (h : ∀ e ∈ entries, ∃ w, others.get? e.1 = some w ∧ e.2.same w = true) :
    sameEntries entries others = true := by
  induction entries with
  | nil => rw [sameEntries]
  | cons e rest ih =>
    obtain ⟨k, v⟩ := e
    obtain ⟨w, hw, hsame⟩ := h (k, v) List.mem_cons_self
    rw [sameEntries, hw, ih fun e he => h e (List.mem_cons_of_mem _ he)]
    simp only [hsame, Bool.and_self]

/-- Sorted data count as equal to the data. -/
lemma same_sorted {v : Value} (hv : Plain v) : v.sorted.same v = true := by
  induction hv with
  | null => rfl
  | bool b => simp [sorted, same, sameNumber, asInt?]
  | int n => simp [sorted, same, sameNumber, asInt?]
  | text s => simp [sorted, same]
  | list hitems ih =>
    rw [sorted, same, sortedItems_eq_map]
    exact sameItems_map ih
  | @map entries hkeys hvalues hdistinct ih =>
    rw [sorted_map, same, List.length_map, List.length_mergeSort, beq_self_eq_true, Bool.true_and]
    refine sameEntries_of_forall fun e he => ?_
    obtain ⟨old, hold, rfl⟩ := List.mem_map.mp he
    have hmem : old ∈ entries := (List.mergeSort_perm entries keyLe).mem_iff.mp hold
    exact ⟨old.2, Mapping.get?_of_mem hkeys hdistinct hmem, ih old hmem⟩

/-- Sorting a mapping keeps its keys and sorts what they hold. -/
lemma exists_sorted_map {entries : Mapping} (hdistinct : (entries.map (·.1)).Nodup) :
    ∃ ordered : Mapping, (Value.map entries).sorted = .map ordered ∧
      ordered.length = entries.length ∧ (ordered.map (·.1)).Nodup ∧
      ∀ e, e ∈ ordered ↔ ∃ old ∈ entries, e = (old.1, old.2.sorted) := by
  have hperm := List.mergeSort_perm entries keyLe
  refine ⟨_, sorted_map entries, ?_, ?_, fun e => ?_⟩
  · rw [List.length_map, List.length_mergeSort]
  · rw [List.map_map]
    exact (hperm.map (·.1)).nodup_iff.mpr hdistinct
  · simp only [List.mem_map, hperm.mem_iff, eq_comm]

/-- With the same text set in both, sorted data still count as equal to the data. -/
lemma same_setText_sorted {entries : Mapping} (hplain : Plain (.map entries)) (name t : String) :
    ∃ ordered : Mapping, (Value.map entries).sorted = .map ordered ∧
      (Value.map (ordered.setText name (.text t))).same
        (.map (entries.setText name (.text t))) = true := by
  cases hplain with
  | map hkeys hvalues hdistinct =>
    obtain ⟨ordered, hsorted, hlength, hdistinct', hmem⟩ := exists_sorted_map hdistinct
    refine ⟨ordered, hsorted, ?_⟩
    have hhas : (Mapping.get? ordered (.text name)).isSome ↔
        (Mapping.get? entries (.text name)).isSome := by
      rw [Mapping.isSome_get?_text, Mapping.isSome_get?_text]
      constructor
      · rintro ⟨e, he, hname⟩
        obtain ⟨old, hold, rfl⟩ := (hmem e).mp he
        exact ⟨old, hold, hname⟩
      · rintro ⟨old, hold, hname⟩
        exact ⟨(old.1, old.2.sorted), (hmem _).mpr ⟨old, hold, rfl⟩, hname⟩
    rw [same, Mapping.setText, Mapping.setText, Mapping.length_set, Mapping.length_set, hlength]
    simp only [hhas, beq_self_eq_true, Bool.true_and]
    refine sameEntries_of_forall fun e he => ?_
    rcases Mapping.mem_setText hdistinct' he with rfl | ⟨he', hne⟩
    · exact ⟨.text t, Mapping.getText?_setText entries name (.text t), by simp [same]⟩
    · obtain ⟨old, hold, rfl⟩ := (hmem e).mp he'
      obtain ⟨other, hother⟩ := hkeys old hold
      have hget := Mapping.get?_of_mem hkeys hdistinct hold
      dsimp only at hne ⊢
      rw [hother] at hget hne ⊢
      refine ⟨old.2, ?_, same_sorted (hvalues old hold)⟩
      rw [← hget]
      exact Mapping.getText?_setText_of_ne entries (.text t) fun heq => hne (by rw [heq])

end Metastore.Value
