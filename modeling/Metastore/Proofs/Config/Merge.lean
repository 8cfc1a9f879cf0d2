import Metastore.Config.Merge
import Metastore.Proofs.Config.Tree
import Metastore.Proofs.Value.Keys

/-!
# What stands where after a merge

The value at a key of merged mappings, from the values that stood there in both (`get?_mergeEntries`), and
the entries of a section that is a mapping in both (`exists_section`).
-/

namespace Metastore.Config

open Value (Keyed)

variable {under upper inner : Mapping} {under? : Option Value} {old v : Value} {name : String}

/-- What stands at a key after something was laid over what stood there. -/
def laid? (under : Option Value) : Option Value → Option Value
  | none => under
  | some v => if v.isNull then under else some (mergeValue (under.getD .null) v)

/-- A value replaces another one, unless both are mappings. -/
lemma mergeValue_eq_self (h : old.isMap = false ∨ v.isMap = false) : mergeValue old v = v := by
  cases v with
  | map entries =>
    cases old with
    | map under => rcases h with h | h <;> cases h
    | _ => rfl
  | _ => rfl

lemma laid?_eq_self (hnull : v.isNull = false)
    (h : (under?.getD .null).isMap = false ∨ v.isMap = false) : laid? under? (some v) = some v := by
  rw [laid?, if_neg (Bool.eq_false_iff.mp hnull), mergeValue_eq_self h]

lemma get?_mergeEntries (hupper : upper.Distinct) (under : Mapping) (key : Value) :
    Mapping.get? (mergeEntries under upper) key = laid? (under.get? key) (upper.get? key) := by
  induction upper generalizing under with
  | nil => rfl
  | cons first rest ih =>
    obtain ⟨k, v⟩ := first
    have hrest : Mapping.Distinct rest := (List.pairwise_cons.mp hupper).2
    rw [mergeEntries, Mapping.get?_cons]
    by_cases hk : k.isSameKey key
    · -- no later entry is laid over this one
      rw [if_pos hk, laid?]
      split
      · rw [ih hrest, hupper.get?_rest hk, laid?]
      · rw [ih hrest, hupper.get?_rest hk, laid?, Mapping.get?_set, if_pos hk, Mapping.get,
          Mapping.get?_congr hk]
    · rw [if_neg hk]
      split
      · exact ih hrest under
      · rw [ih hrest, Mapping.get?_set, if_neg hk]

lemma getText?_mergeEntries (hupper : upper.Distinct) (under : Mapping) (name : String) :
    Mapping.getText? (mergeEntries under upper) name =
      laid? (under.getText? name) (upper.getText? name) := get?_mergeEntries hupper under (.text name)

lemma distinct_mergeEntries (hunder : under.Distinct) (upper : Mapping) :
    Mapping.Distinct (mergeEntries under upper) := by
  induction upper generalizing under with
  | nil => exact hunder
  | cons first rest ih =>
    obtain ⟨k, v⟩ := first
    rw [mergeEntries]
    split
    · exact ih hunder
    · exact ih (hunder.set k _)

/-- Two mappings can be merged. -/
lemma merge_map (under upper : Mapping) :
    merge (.map under) (.map upper) = .ok (.map (mergeEntries under upper)) := by
  cases upper <;> rfl

/-- A section over which a section is laid, or nothing, is a section of the entries of both. -/
lemma exists_section (hunder : under.getText? name = some (.map inner)) (hupper : Keyed (.map upper))
    (hsection : upper.SectionAt name) :
    ∃ more : Mapping, Keyed (.map more) ∧
      (∀ key, more.getText? key = (Value.map upper).at? [name, key]) ∧
      Mapping.getText? (mergeEntries under upper) name = some (.map (mergeEntries inner more)) := by
  simp only [getText?_mergeEntries hupper.distinct, hunder, Value.at?_map_cons]
  cases hname : upper.getText? name with
  | none => exact ⟨[], .nil, fun key => rfl, rfl⟩
  | some v =>
    rcases hsection v hname with rfl | ⟨entries, rfl⟩
    · exact ⟨[], .nil, fun key => rfl, rfl⟩
    · refine ⟨entries, hupper.of_getText? hname, fun key => ?_, rfl⟩
      rw [Option.bind_some, Value.at?_map_cons]
      cases entries.getText? key with
      | none => rfl
      | some w => exact (Value.at?_nil w).symm

end Metastore.Config
