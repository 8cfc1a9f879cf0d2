import Metastore.Config.Current
import Metastore.Config.Load
import Metastore.Proofs.Config.Merge

/-!
# Changes to the configuration in use

Values are set in place, so that mappings that are missing on the way are put there before it is known whether
something stands in the way further on. Nothing does: below a mapping that was missing there is nothing, so
whatever cannot be set has not been begun (`Edit.setAt_eq`). What can be done to the configuration in use
either has exactly its effect or none (`Config.changes_exact`).
-/

namespace Metastore

/-- Where nothing can be set below a key, something stands at the key, and it may be put there again. -/
lemma Value.setText_child_of_error {entries : Mapping} {key : String} {rest : Path} {new : Value}
    {problem : Problem} (h : (child entries key).insertAt rest new = .error problem) :
    entries.setText key (child entries key) = entries := by
  rw [child] at h ⊢
  cases hkey : entries.getText? key with
  | some w => exact Mapping.set_of_get? hkey
  | none =>
    rw [hkey] at h
    obtain ⟨w, hw⟩ := exists_insertAt (fun q _ _ => isOpenAt_empty q) new
    cases hw.symm.trans h

namespace Edit

variable {path : Path}

/-- Setting a value in place gives what setting it gives, and has no effect where that fails. -/
lemma setAt_eq (hpath : path ≠ []) (new v : Value) :
    setAt path new v = match v.insertAt path new with
      | .ok after => (.ok (), after)
      | .error problem => (.error problem, v) := by
  induction path generalizing v with
  | nil => exact absurd rfl hpath
  | cons key rest ih =>
    cases rest with
    | nil => cases v <;> rfl
    | cons next more =>
      cases v with
      | map entries =>
        have hstep : setAt (key :: next :: more) new = inside key (setAt (next :: more) new) := rfl
        rw [hstep, inside, ← Value.child, ih (by simp), Value.insertAt_map_cons]
        cases hchild : (Value.child entries key).insertAt (next :: more) new with
        | ok w => rfl
        | error problem =>
          exact congrArg (fun entries => (_, Value.map entries)) (Value.setText_child_of_error hchild)
      | _ => rfl

end Edit

namespace Value

/-- What is read as a mapping has different keys, if it has where it is one already. -/
lemma distinct_of_toMapping {v : Value} {entries : Mapping} (hv : Keyed v) (h : v.toMapping = .ok entries) :
    entries.Distinct := by
  have hpairs {items : List Value} {m entries : Mapping} (hm : m.Distinct)
      (h : pairEntries m items = .ok entries) : entries.Distinct := by
    induction items generalizing m with
    | nil => exact Except.ok.inj h ▸ hm
    | cons item rest ih =>
      obtain ⟨⟨key, value⟩, -, hrest⟩ := except_bind_eq_ok.mp h
      dsimp only at hrest
      split at hrest
      · cases hrest
      · exact ih (hm.set key value) hrest
  cases v with
  | map own => exact Except.ok.inj h ▸ hv.distinct
  | list items => exact hpairs List.Pairwise.nil h
  | entry key value => exact hpairs List.Pairwise.nil h
  | text s => exact hpairs List.Pairwise.nil h
  | _ => cases h

end Value

namespace Config

variable {c after made : Config} {path : Path} {v data : Value}

/-! ### Configurations that are made -/

lemma distinct_of_merge {under upper merged : Value}
    (hunder : ∀ entries, under.toMapping = .ok entries → entries.Distinct)
    (h : merge under upper = .ok merged) :
    ∃ entries : Mapping, merged = .map entries ∧ entries.Distinct := by
  obtain ⟨lower, hlower, h⟩ := except_bind_eq_ok.mp h
  split at h
  · obtain ⟨more, -, h⟩ := except_bind_eq_ok.mp h
    exact ⟨_, (Except.ok.inj h).symm, distinct_mergeEntries (hunder lower hlower) more⟩
  · exact ⟨lower, (Except.ok.inj h).symm, hunder lower hlower⟩

/-- A configuration that is made has different keys. -/
lemma distinct_of_create {files : Files} {env : Environment} {home location : String} (hdata : data.Keyed)
    (h : create files env home data location = .ok made) : made.root.Distinct := by
  rw [create] at h
  split at h
  · obtain ⟨file, -, h⟩ := except_bind_eq_ok.mp h
    obtain ⟨overrides, -, h⟩ := except_bind_eq_ok.mp h
    obtain ⟨under, hunder, h⟩ := except_bind_eq_ok.mp h
    obtain ⟨merged, hmerged, h⟩ := except_bind_eq_ok.mp h
    have hdefaults : ∀ entries, defaults.toMapping = .ok entries → entries.Distinct := by
      rintro entries ⟨⟩
      decide
    obtain ⟨lower, rfl, hlower⟩ := distinct_of_merge hdefaults hunder
    obtain ⟨root, rfl, hroot⟩ := distinct_of_merge (by rintro entries ⟨⟩; exact hlower) hmerged
    cases h
    exact hroot
  · obtain ⟨root, hroot, rfl⟩ := except_map_eq_ok.mp h
    exact Value.distinct_of_toMapping hdata hroot

namespace Use

variable {α : Type}

/-- Whether something that fails leaves the configuration as it was. -/
def IsAtomic (use : Use α) : Prop := ∀ c problem, (use c).1 = .error problem → (use c).2 = c

/-! ### One kind of change at a time -/

/-- A value is set as in a value, or nothing is done. -/
lemma set_cases (hpath : path ≠ []) (v : Value) (c : Config) :
    (∃ after : Config, c.toValue.insertAt path v = .ok after.toValue ∧ set path v c = (.ok (), after)) ∨
      ∃ problem, c.toValue.insertAt path v = .error problem ∧ set path v c = (.error problem, c) := by
  rw [set, edit, Edit.setAt_eq hpath]
  cases h : c.toValue.insertAt path v with
  | error problem => exact .inr ⟨problem, rfl, rfl⟩
  | ok w =>
    obtain ⟨key, rest, rfl⟩ := List.exists_cons_of_ne_nil hpath
    obtain ⟨entries, inner, -, -, rfl⟩ := Value.insertAt_cons_eq_ok h
    exact .inl ⟨⟨Mapping.setText entries key inner⟩, rfl, rfl⟩

lemma set_eq_ok_iff (hpath : path ≠ []) :
    set path v c = (.ok (), after) ↔ c.toValue.insertAt path v = .ok after.toValue := by
  rcases set_cases hpath v c with ⟨made, hinsert, hset⟩ | ⟨problem, hinsert, hset⟩
  · rw [hinsert, hset]
    cases made
    exact ⟨by rintro ⟨⟩; rfl, by rintro ⟨⟩; rfl⟩
  · rw [hinsert, hset]
    exact iff_of_false (by rintro ⟨⟩) (by rintro ⟨⟩)

lemma set_isAtomic (hpath : path ≠ []) (v : Value) : (set path v).IsAtomic := by
  intro c problem hfailed
  rcases set_cases hpath v c with ⟨after, -, hset⟩ | ⟨_, -, hset⟩
  · rw [hset] at hfailed
    cases hfailed
  · rw [hset]

/-- Without a default, the value is only looked up. -/
lemma read_null (path : Path) (c : Config) : read path .null c = (.ok (c.lookup path), c) := by
  rw [read]
  cases c.lookup path <;> rfl

lemma read_isAtomic (hpath : path ≠ []) (default : Value) : (read path default).IsAtomic := by
  intro c problem hfailed
  rw [read] at hfailed ⊢
  split
  · rfl
  · split
    · rfl
    · rcases set_cases hpath default c with ⟨after, -, hset⟩ | ⟨_, -, hset⟩
      · rw [if_neg ‹_›, if_neg ‹_›, Action.bind_of_ok hset] at hfailed
        cases hfailed
      · rw [Action.bind_of_error hset]

lemma replace_of_ok (hmade : made.root.Distinct) (c : Config) : replace (.ok made) c = (.ok (), made) := by
  have hroot : Mapping.setAll [] made.root = made.root := Mapping.Distinct.setAll hmade
  have hreplaced : replace (.ok made) c = (.ok (), ⟨Mapping.setAll [] made.root⟩) := rfl
  rw [hreplaced, hroot]

lemma replace_isAtomic (fresh : Except Problem Config) : (replace fresh).IsAtomic := by
  intro c problem hfailed
  cases fresh with
  | error problem => rfl
  | ok made => cases hfailed

end Use

/-! ### All changes -/

lemma ofText_ne_nil (text : String) : Path.ofText text ≠ [] := by
  have hpieces (cs : List Char) : Text.splitBy (· == '.') cs ≠ [] := by
    induction cs with
    | nil => simp [Text.splitBy]
    | cons c rest ih =>
      rw [Text.splitBy]
      split
      · exact List.cons_ne_nil _ _
      · split <;> exact List.cons_ne_nil _ _
  exact mt List.map_eq_nil_iff.mp (hpieces text.toList)

/-- A value can be set exactly where nothing but mappings stands in the way; it is read back then, and what
stands apart from it is read as before. Replacing leaves exactly the fresh configuration, loaded or made of data
whose mappings have different keys. Whatever fails leaves everything as it was. -/
theorem changes_exact (c : Config) (text : String) (v : Value) (hdata : data.Keyed) (files : Files)
    (env : Environment) (home location : String) :
    let path := Path.ofText text
    ((∃ after, Use.set path v c = (.ok (), after)) ↔ ∀ q, q <+: path → q ≠ path → c.toValue.IsOpenAt q) ∧
      (∀ after, Use.set path v c = (.ok (), after) →
        Use.read path .null after = (.ok v, after) ∧
          ∀ q, path.Apart q → (Use.read q .null after).1 = (Use.read q .null c).1) ∧
      (∀ after, Use.replace (create files env home data location) c = (.ok (), after) ↔
        create files env home data location = .ok after) ∧
      (Use.set path v).IsAtomic ∧ (∀ default, (Use.read path default).IsAtomic) ∧
      ∀ fresh, (Use.replace fresh).IsAtomic := by
  intro path
  have hpath : path ≠ [] := ofText_ne_nil text
  refine ⟨⟨?_, ?_⟩, ?_, ?_, Use.set_isAtomic hpath v, Use.read_isAtomic hpath, Use.replace_isAtomic⟩
  · rintro ⟨after, hset⟩ q hbegins hne
    exact Value.isOpenAt_of_insertAt ((Use.set_eq_ok_iff hpath).mp hset) hbegins hne
  · intro hopen
    obtain ⟨w, hw⟩ := Value.exists_insertAt hopen v
    rcases Use.set_cases hpath v c with ⟨after, -, hset⟩ | ⟨problem, hfailed, -⟩
    · exact ⟨after, hset⟩
    · cases hw.symm.trans hfailed
  · intro after hset
    have hinsert := (Use.set_eq_ok_iff hpath).mp hset
    constructor
    · rw [Use.read_null, lookup, Value.at?_insertAt hinsert, Option.getD_some]
    · intro q hapart
      rw [Use.read_null, Use.read_null, lookup, lookup, Value.at?_insertAt_of_apart hinsert hapart]
  · intro after
    cases hfresh : create files env home data location with
    | error problem => exact iff_of_false (by rintro ⟨⟩) (by rintro ⟨⟩)
    | ok made =>
      rw [Use.replace_of_ok (distinct_of_create hdata hfresh)]
      exact ⟨by rintro ⟨⟩; rfl, by rintro ⟨⟩; rfl⟩

/-- A mapping that is missing on the way is put there, so that the value can be read and what stood apart is
still there. A number stands in the way of another value, and nothing is put there. Replacing takes out what
was there. -/
theorem changes_exact_nested :
    let c : Config := ⟨[(.text "a", .map [(.text "x", .int 1)]), (.text "n", .int 0)]⟩
    let data : Value := .map [(.text "b", .bool true)]
    let after : Config := ⟨[
      (.text "a", .map [(.text "x", .int 1), (.text "new", .map [(.text "y", .int 2)])]),
      (.text "n", .int 0)]⟩
    data.Keyed ∧ Use.set (Path.ofText "a.new.y") (.int 2) c = (.ok (), after) ∧
      (Use.read ["a", "new", "y"] .null after).1 = .ok (.int 2) ∧
      (Use.read ["a", "x"] .null after).1 = .ok (.int 1) ∧
      Use.set (Path.ofText "n.new.y") (.int 2) c = (.error .notAMapping, c) ∧
      Use.replace (create [] [] "" data "") c = (.ok (), ⟨[(.text "b", .bool true)]⟩) := by
  intro c data after
  have htrue : (Value.bool true).Keyed := .other rfl
  have hdata : data.Keyed := .map (by decide) (by simp [htrue])
  have hset : Use.set (Path.ofText "a.new.y") (.int 2) c = (.ok (), after) := by rfl
  obtain ⟨-, hreads, hreplace, -⟩ := changes_exact c "a.new.y" (.int 2) hdata [] [] "" ""
  obtain ⟨hread, hframe⟩ := hreads after hset
  have hapart : (Path.ofText "a.new.y").Apart ["a", "x"] := by decide
  obtain ⟨-, -, -, hatomic, -⟩ := changes_exact c "n.new.y" (.int 2) hdata [] [] "" ""
  have hfailed : (Use.set (Path.ofText "n.new.y") (.int 2) c).1 = .error .notAMapping := by rfl
  refine ⟨hdata, hset, congrArg Prod.fst hread, hframe _ hapart, ?_, (hreplace _).mpr rfl⟩
  exact Prod.ext hfailed (hatomic c _ hfailed)

end Config
end Metastore
