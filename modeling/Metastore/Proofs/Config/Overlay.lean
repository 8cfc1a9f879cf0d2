import Metastore.Proofs.Config.Merge

/-!
# What a merge holds, place by place

Mappings may hold mappings at any depth, under keys of any kind. Where one is laid over another, the values
of the upper one that are neither null nor mappings are kept, those of the lower one are kept where nothing
stands over them, there is nothing else, and laying the upper one over the result changes nothing
(`Config.merged_by_place`).
-/

namespace Metastore

namespace Value

variable {v w : Value} {entries : Mapping} {key : Value} {path rest : List Value}

/-- The value at a path of keys of any kind, if every key on the way is there. -/
def atKeys? : Value → List Value → Option Value
  | v, [] => some v
  | .map entries, key :: rest => (Mapping.get? entries key).bind (·.atKeys? rest)
  | _, _ :: _ => none
termination_by structural _ path => path

@[simp] lemma atKeys?_nil (v : Value) : v.atKeys? [] = some v := by
  cases v <;> rfl

lemma atKeys?_map_cons (entries : Mapping) (key : Value) (rest : List Value) :
    (Value.map entries).atKeys? (key :: rest) = (entries.get? key).bind (·.atKeys? rest) := rfl

/-- A path with a first key leads through a mapping. -/
lemma atKeys?_cons_eq_some (h : v.atKeys? (key :: rest) = some w) :
    ∃ (entries : Mapping) (child : Value), v = .map entries ∧ entries.get? key = some child ∧
      child.atKeys? rest = some w := by
  cases v with
  | map entries =>
    obtain ⟨child, hchild, hrest⟩ := Option.bind_eq_some_iff.mp h
    exact ⟨entries, child, rfl, hchild, hrest⟩
  | _ => cases h

/-- What leads to something else than null is not null. -/
lemma isNull_of_atKeys? (h : v.atKeys? path = some w) (hnull : w.isNull = false) : v.isNull = false := by
  cases path with
  | nil =>
    rw [atKeys?_nil, Option.some.injEq] at h
    rw [h, hnull]
  | cons key rest =>
    obtain ⟨entries, -, rfl, -⟩ := atKeys?_cons_eq_some h
    rfl

/-- A value in which every mapping that is reached through mappings has keys that mappings take, no two of
them for the same entry. -/
inductive WellKeyed : Value → Prop where
  | other {v : Value} (h : v.isMap = false) : WellKeyed v
  | map {entries : Mapping} (hkeys : ∀ e ∈ entries, e.1.isKey = true) (hdistinct : entries.Distinct)
      (hvalues : ∀ e ∈ entries, WellKeyed e.2) : WellKeyed (.map entries)

namespace WellKeyed

lemma nil : WellKeyed (.map []) := .map (by simp) List.Pairwise.nil (by simp)

lemma distinct (h : WellKeyed (.map entries)) : entries.Distinct := by
  cases h with
  | other h => cases h
  | map hkeys hdistinct hvalues => exact hdistinct

lemma of_get? (h : WellKeyed (.map entries)) (hfound : entries.get? key = some v) : WellKeyed v := by
  obtain ⟨e, he, -, rfl⟩ := Mapping.exists_mem_of_get? hfound
  cases h with
  | other h => cases h
  | map hkeys hdistinct hvalues => exact hvalues e he

end WellKeyed
end Value

namespace Config

open Value (WellKeyed)

variable {under upper inner : Mapping} {old v w : Value} {path : List Value}

/-- What a merge holds at the paths of keys, given the two values it was made of. -/
structure IsLaidOver (upper under merged : Value) : Prop where
  /-- What the upper one holds is kept, unless it is null or a mapping. -/
  keeps_upper : ∀ path v, upper.atKeys? path = some v → v.isNull = false → v.isMap = false →
    merged.atKeys? path = some v
  /-- What the lower one holds and is no mapping is kept if the upper one has nothing there but null, and
  nothing on the way there but null and mappings. -/
  keeps_under : ∀ path v, under.atKeys? path = some v → v.isMap = false →
    (∀ w, upper.atKeys? path = some w → w.isNull = true) →
    (∀ q, q <+: path → q ≠ path → ∀ w, upper.atKeys? q = some w → w.isNull = true ∨ w.isMap = true) →
    merged.atKeys? path = some v
  /-- What the merge holds and is no mapping, one of the two holds there. -/
  holds_nothing_else : ∀ path v, merged.atKeys? path = some v → v.isMap = false →
    under.atKeys? path = some v ∨ upper.atKeys? path = some v

/-! ### One law at a time -/

lemma atKeys?_mergeValue_of_upper (hw : WellKeyed w) (h : w.atKeys? path = some v)
    (hnull : v.isNull = false) (hmap : v.isMap = false) (old : Value) :
    (mergeValue old w).atKeys? path = some v := by
  induction path generalizing old w with
  | nil =>
    obtain rfl : w = v := by simpa using h
    rw [mergeValue_eq_self (.inr hmap), h]
  | cons key rest ih =>
    obtain ⟨inner, x, rfl, hx, hrest⟩ := Value.atKeys?_cons_eq_some h
    cases old with
    | map under =>
      rw [mergeValue, Value.atKeys?_map_cons, get?_mergeEntries hw.distinct, hx, laid?,
        if_neg (Bool.eq_false_iff.mp (Value.isNull_of_atKeys? hrest hnull))]
      exact ih (hw.of_get? hx) hrest _
    | _ => exact h

lemma atKeys?_mergeEntries_of_under (hupper : WellKeyed (.map upper))
    (h : (Value.map under).atKeys? path = some v) (hmap : v.isMap = false)
    (hat : ∀ w, (Value.map upper).atKeys? path = some w → w.isNull = true)
    (hbefore : ∀ q, q <+: path → q ≠ path → ∀ w, (Value.map upper).atKeys? q = some w →
      w.isNull = true ∨ w.isMap = true) :
    (Value.map (mergeEntries under upper)).atKeys? path = some v := by
  induction path generalizing under upper with
  | nil =>
    obtain rfl : Value.map under = v := by simpa using h
    cases hmap
  | cons key rest ih =>
    rw [Value.atKeys?_map_cons] at h ⊢
    obtain ⟨x, hx, hrest⟩ := Option.bind_eq_some_iff.mp h
    rw [get?_mergeEntries hupper.distinct, hx, laid?.eq_def]
    cases hy : upper.get? key with
    | none => exact hrest
    | some y =>
      dsimp only
      split
      · exact hrest
      · next hnull =>
        have hlead (q : List Value) : (Value.map upper).atKeys? (key :: q) = y.atKeys? q := by
          rw [Value.atKeys?_map_cons, hy, Option.bind_some]
        cases rest with
        | nil =>
          refine absurd (hat y ?_) hnull
          rw [hlead, Value.atKeys?_nil]
        | cons next more =>
          -- both have a mapping here, since the path goes on
          obtain ⟨lower, -, rfl, -⟩ := Value.atKeys?_cons_eq_some hrest
          have hfirst := hbefore [key] (by simp) (by simp) y (by rw [hlead, Value.atKeys?_nil])
          obtain ⟨inner, rfl⟩ := Value.exists_eq_map (hfirst.resolve_left hnull)
          apply ih (hupper.of_get? hy) hrest
          · intro w hw
            exact hat w (by rwa [hlead])
          · intro q hq hne w hw
            exact hbefore (key :: q) (List.cons_prefix_cons.mpr ⟨rfl, hq⟩) (by simpa using hne) w
              (by rwa [hlead])

lemma atKeys?_mergeValue_cases (hw : WellKeyed w) (h : (mergeValue old w).atKeys? path = some v)
    (hmap : v.isMap = false) : old.atKeys? path = some v ∨ w.atKeys? path = some v := by
  induction path generalizing old w with
  | nil =>
    obtain rfl : mergeValue old w = v := by simpa using h
    right
    cases w with
    | map inner =>
      cases old <;> cases hmap
    | _ => rfl
  | cons key rest ih =>
    cases w with
    | map inner =>
      cases old with
      | map under =>
        rw [mergeValue, Value.atKeys?_map_cons, get?_mergeEntries hw.distinct] at h
        rw [Value.atKeys?_map_cons, Value.atKeys?_map_cons]
        cases hy : Mapping.get? inner key with
        | none =>
          rw [hy] at h
          exact .inl h
        | some y =>
          rw [hy, laid?] at h
          split at h
          · exact .inl h
          · cases hx : Mapping.get? under key with
            | none =>
              rw [hx, Option.getD_none, mergeValue_eq_self (.inl rfl)] at h
              exact .inr h
            | some x =>
              rw [hx] at h
              exact ih (hw.of_get? hy) h
      | _ => exact .inr h
    | _ => exact .inr h

/-- Where everything is laid over itself already, it is laid over without effect. -/
lemma mergeEntries_eq_self {merged : Mapping} {more : List (Value × Value)}
    (h : ∀ e ∈ more, e.2.isNull = false → merged.get? e.1 = some (mergeValue (merged.get e.1) e.2)) :
    mergeEntries merged more = merged := by
  induction more with
  | nil => rfl
  | cons first rest ih =>
    obtain ⟨k, v⟩ := first
    have hrest := ih fun e he => h e (List.mem_cons_of_mem _ he)
    rw [mergeEntries]
    split
    · exact hrest
    · next hnull =>
      have hfound := h (k, v) List.mem_cons_self (Bool.eq_false_iff.mpr hnull)
      rw [Mapping.set_of_get? hfound, hrest]

/-- What was laid over a value is laid over the result without effect. -/
lemma mergeValue_mergeValue (hw : WellKeyed w) (old : Value) :
    mergeValue (mergeValue old w) w = mergeValue old w := by
  induction hw generalizing old with
  | other hmap => rw [mergeValue_eq_self (.inr hmap), mergeValue_eq_self (.inr hmap)]
  | @map entries hkeys hdistinct hvalues ih =>
    have hfound {e : Value × Value} (he : e ∈ entries) : Mapping.get? entries e.1 = some e.2 :=
      hdistinct.get?_of_mem he (hkeys e he)
    cases old with
    | map under =>
      simp only [mergeValue]
      congr 1
      refine mergeEntries_eq_self fun e he hnull => ?_
      have hlaid : Mapping.get? (mergeEntries under entries) e.1 =
          some (mergeValue ((Mapping.get? under e.1).getD .null) e.2) := by
        rw [get?_mergeEntries hdistinct, hfound he, laid?, if_neg (Bool.eq_false_iff.mp hnull)]
      rw [Mapping.get, hlaid, Option.getD_some, ih e he]
    | _ =>
      simp only [mergeValue]
      congr 1
      refine mergeEntries_eq_self fun e he _ => ?_
      have hself := ih e he .null
      have hnone : mergeValue .null e.2 = e.2 := mergeValue_eq_self (.inl rfl)
      rw [hnone] at hself
      rw [Mapping.get, hfound he, Option.getD_some, hself]

/-! ### All laws -/

/-- Any two nested mappings can be merged. The merge holds what it should at every path of keys, and merging
the upper one into it once more changes nothing. -/
theorem merged_by_place (under : Mapping) (hupper : WellKeyed (.map upper)) :
    ∃ merged : Mapping, merge (.map under) (.map upper) = .ok (.map merged) ∧
      IsLaidOver (.map upper) (.map under) (.map merged) ∧
      merge (.map merged) (.map upper) = .ok (.map merged) := by
  refine ⟨mergeEntries under upper, merge_map under upper, ⟨?_, ?_, ?_⟩, ?_⟩
  · intro path v h hnull hmap
    exact atKeys?_mergeValue_of_upper hupper h hnull hmap (.map under)
  · intro path v h hmap hat hbefore
    exact atKeys?_mergeEntries_of_under hupper h hmap hat hbefore
  · intro path v h hmap
    rw [← mergeValue] at h
    exact atKeys?_mergeValue_cases hupper h hmap
  · rw [merge_map]
    exact congrArg Except.ok (mergeValue_mergeValue hupper (.map under))

/-- A mapping replaces a number, nulls replace nothing but come along in a mapping that is new, an empty
mapping changes nothing in a mapping, and a truth value is the key that a number is. -/
theorem merged_by_place_mixed :
    let under : Mapping := [(.text "a", .int 1),
      (.text "b", .map [(.text "c", .int 2), (.text "d", .text "x")]), (.int 1, .text "one"), (.text "e", .null)]
    let upper : Mapping := [(.text "a", .map [(.text "n", .null)]),
      (.text "b", .map [(.text "c", .null), (.text "d", .map [])]), (.bool true, .text "yes"),
      (.text "e", .null)]
    let merged : Mapping := [(.text "a", .map [(.text "n", .null)]),
      (.text "b", .map [(.text "c", .int 2), (.text "d", .map [])]), (.int 1, .text "yes"), (.text "e", .null)]
    WellKeyed (.map upper) ∧ merge (.map under) (.map upper) = .ok (.map merged) ∧
      IsLaidOver (.map upper) (.map under) (.map merged) ∧
      merge (.map merged) (.map upper) = .ok (.map merged) := by
  intro under upper merged
  have hnull : WellKeyed .null := .other rfl
  have hupper : WellKeyed (.map upper) := by
    refine .map (by decide) (by decide) ?_
    simp only [upper, List.forall_mem_cons, List.not_mem_nil, false_implies, implies_true, and_true]
    refine ⟨.map (by decide) (by decide) ?_, .map (by decide) (by decide) ?_, .other rfl, hnull⟩
    · simp [hnull]
    · simp [hnull, WellKeyed.nil]
  obtain ⟨found, hmerge, hlaid, hagain⟩ := merged_by_place under hupper
  have hvalue : merge (.map under) (.map upper) = .ok (.map merged) := by decide
  obtain rfl : merged = found := by simpa using hvalue.symm.trans hmerge
  exact ⟨hupper, hmerge, hlaid, hagain⟩

end Config
end Metastore
