import Metastore.Environment.Placeholder
import Metastore.Proofs.Config.Tree

/-!
# Values with their placeholders replaced

Replacing placeholders keeps the shape of a value: its kind, its keys, and what stands where.
-/

namespace Metastore.Environment

open Value (Keyed)

variable {v : Value}

@[simp] lemma isNull_resolve (env : Environment) (v : Value) : (env.resolve v).isNull = v.isNull := by
  cases v <;> rfl

@[simp] lemma isMap_resolve (env : Environment) (v : Value) : (env.resolve v).isMap = v.isMap := by
  cases v <;> rfl

lemma resolveEntries_eq_map (env : Environment) (entries : Mapping) :
    env.resolveEntries entries = entries.map fun e => (e.1, env.resolve e.2) := by
  induction entries with
  | nil => rfl
  | cons e rest ih =>
    obtain ⟨k, v⟩ := e
    rw [resolveEntries, ih, List.map_cons]

lemma getText?_resolveEntries (env : Environment) (entries : Mapping) (name : String) :
    Mapping.getText? (env.resolveEntries entries) name = (entries.getText? name).map env.resolve := by
  induction entries with
  | nil => rfl
  | cons e rest ih =>
    obtain ⟨k, v⟩ := e
    rw [resolveEntries, Mapping.getText?_cons, Mapping.getText?_cons, ih]
    split <;> rfl

lemma sectionAt_resolveEntries (env : Environment) {entries : Mapping} {name : String}
    (h : entries.SectionAt name) : Mapping.SectionAt (env.resolveEntries entries) name := by
  intro v hv
  rw [getText?_resolveEntries] at hv
  obtain ⟨w, hw, rfl⟩ := Option.map_eq_some_iff.mp hv
  rcases h w hw with rfl | ⟨inner, rfl⟩
  · exact .inl rfl
  · exact .inr ⟨_, rfl⟩

/-- What stands at a path is what stood there, with its placeholders replaced. -/
lemma at?_resolve (env : Environment) (v : Value) (path : Path) :
    (env.resolve v).at? path = (v.at? path).map env.resolve := by
  induction path generalizing v with
  | nil => rw [Value.at?_nil, Value.at?_nil, Option.map_some]
  | cons key rest ih =>
    cases v with
    | map entries =>
      rw [resolve, Value.at?_map_cons, Value.at?_map_cons, getText?_resolveEntries]
      cases Mapping.getText? entries key with
      | none => rfl
      | some w => exact ih w
    | _ => rfl

lemma keyed_resolve (env : Environment) (h : Keyed v) : Keyed (env.resolve v) := by
  induction h with
  | other h => exact .other ((isMap_resolve env _).trans h)
  | map hdistinct hvalues ih =>
    rw [resolve, resolveEntries_eq_map]
    refine .map (List.pairwise_map.mpr hdistinct) fun e he => ?_
    obtain ⟨old, hold, rfl⟩ := List.mem_map.mp he
    exact ih old hold

end Metastore.Environment
