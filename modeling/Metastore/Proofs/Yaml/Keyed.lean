import Metastore.Proofs.Action
import Metastore.Proofs.Value.Keyed
import Metastore.Yaml

/-!
# Keys in configuration files

However a file repeats its keys, no mapping in its value does: entries are set one after another
(`Yaml.keyed_ofBytes`).
-/

namespace Metastore

open Value (Keyed)

namespace Yaml

/-- A text of any kind is no mapping. -/
lemma keyed_scalar {kind s : String} {v : Value} (h : Scalar.value kind s = .ok v) : Keyed v := by
  apply Keyed.other
  rw [Scalar.value.eq_def] at h
  split at h
  · cases h; rfl
  · obtain ⟨b, -, rfl⟩ := except_map_eq_ok.mp h; rfl
  · obtain ⟨n, -, rfl⟩ := except_map_eq_ok.mp h; rfl
  · obtain ⟨x, -, rfl⟩ := except_map_eq_ok.mp h; rfl
  · rw [Scalar.binary] at h
    split at h <;> cases h
    rfl
  · obtain ⟨t, -, rfl⟩ := except_map_eq_ok.mp h; rfl
  · cases h; rfl
  · cases h

namespace Node

lemma keyed_textValue {node : Node} {v : Value} (h : node.textValue = .ok v) : Keyed v := by
  rw [textValue] at h
  split at h
  · exact keyed_scalar h
  · cases h

/-- A further entry is set at the key that its node gives. -/
lemma entryValues_cons {key v : Node} {rest : List (Node × Node)} {before after : Mapping}
    (h : entryValues before ((key, v) :: rest) = .ok after) :
    ∃ k found, v.value = .ok found ∧ entryValues (before.set k found) rest = .ok after := by
  have hset : ∃ k : Value, (do
      if !k.isKey then throw .badYaml
      entryValues (before.set k (← v.value)) rest) = Except.ok after := by
    rw [entryValues.eq_def] at h
    dsimp only at h
    split at h
    · obtain ⟨k, -, hk⟩ := except_bind_eq_ok.mp h
      exact ⟨k, hk⟩
    · obtain ⟨k, -, hk⟩ := except_bind_eq_ok.mp h
      exact ⟨k, hk⟩
  obtain ⟨k, hk⟩ := hset
  dsimp only at hk
  split at hk
  · cases hk
  · obtain ⟨found, hfound, hrest⟩ := except_bind_eq_ok.mp hk
    exact ⟨k, found, hfound, hrest⟩

mutual

lemma keyed_value (node : Node) {v : Value} (h : node.value = .ok v) : Keyed v := by
  match node with
  | text tag s =>
    rw [value] at h
    exact keyed_textValue h
  | sequence tag items =>
    apply Keyed.other
    rw [value] at h
    split at h
    · obtain ⟨found, -, rfl⟩ := except_map_eq_ok.mp h
      rfl
    · split at h
      · obtain ⟨found, -, rfl⟩ := except_map_eq_ok.mp h
        rfl
      · cases h
  | mapping tag entries =>
    rw [value] at h
    split at h
    · obtain ⟨m, hm, rfl⟩ := except_map_eq_ok.mp h
      exact keyed_entryValues entries .nil hm
    · split at h
      · obtain ⟨m, -, rfl⟩ := except_map_eq_ok.mp h
        exact .other rfl
      · split at h
        · exact keyed_textValue h
        · cases h

lemma keyed_entryValues (entries : List (Node × Node)) {before after : Mapping}
    (hbefore : Keyed (.map before)) (h : entryValues before entries = .ok after) :
    Keyed (.map after) := by
  match entries with
  | [] =>
    rw [entryValues] at h
    obtain rfl := Except.ok.inj h
    exact hbefore
  | (key, v) :: rest =>
    obtain ⟨k, found, hfound, hrest⟩ := entryValues_cons h
    exact keyed_entryValues rest (hbefore.set k (keyed_value v hfound)) hrest

end

end Node

/-- The value of a file has no mapping with a key twice. -/
lemma keyed_ofBytes {bytes : ByteArray} {v : Value} (h : ofBytes bytes = .ok v) : Keyed v := by
  rw [ofBytes] at h
  split at h
  · next s _ =>
    rw [ofText] at h
    obtain ⟨found, -, h⟩ := except_bind_eq_ok.mp h
    cases found with
    | none =>
      obtain rfl := Except.ok.inj h
      exact .other rfl
    | some node =>
      obtain ⟨merged, -, hvalue⟩ := except_bind_eq_ok.mp h
      exact Node.keyed_value merged hvalue
  · cases h

end Yaml
end Metastore
