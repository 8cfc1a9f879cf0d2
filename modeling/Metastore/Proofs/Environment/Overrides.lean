import Metastore.Environment.Override
import Metastore.Proofs.Config.Tree

/-!
# The tree of the overrides

Values that are set one after another, at paths that stand apart: all of them can be set, each is at its
path afterwards, and what stands apart from all of them is as it was.
-/

namespace Metastore.Environment

open Value (Keyed)

variable {tree tree' : Value} {overrides : List (Path × Value)} {q : Path}

/-- Whether the paths of overrides stand apart. -/
def AllApart (overrides : List (Path × Value)) : Prop := overrides.Pairwise fun a b => a.1.Apart b.1

instance (overrides : List (Path × Value)) : Decidable (AllApart overrides) :=
  inferInstanceAs (Decidable (List.Pairwise _ _))

lemma insertAll_cons_eq_ok {path : Path} {v : Value} {rest : List (Path × Value)}
    (h : insertAll tree ((path, v) :: rest) = .ok tree') :
    ∃ between, tree.insertAt path v = .ok between ∧ insertAll between rest = .ok tree' := by
  rw [insertAll] at h
  exact except_bind_eq_ok.mp h

/-- Overrides that stand apart do not get in each other's way. -/
lemma exists_insertAll (hapart : AllApart overrides)
    (hopen : ∀ o ∈ overrides, ∀ q, q <+: o.1 → q ≠ o.1 → tree.IsOpenAt q) :
    ∃ tree', insertAll tree overrides = .ok tree' := by
  induction overrides generalizing tree with
  | nil => exact ⟨tree, rfl⟩
  | cons first rest ih =>
    obtain ⟨path, v⟩ := first
    obtain ⟨hfirst, hrest⟩ := List.pairwise_cons.mp hapart
    obtain ⟨between, hbetween⟩ := Value.exists_insertAt (hopen (path, v) List.mem_cons_self) v
    have hopen' : ∀ o ∈ rest, ∀ q, q <+: o.1 → q ≠ o.1 → between.IsOpenAt q := by
      intro o ho q hbegins hne
      -- the first path is no beginning of a later one, so of no beginning of a later one either
      have hnot : ¬ path <+: q := fun hpath => (hfirst o ho).1 (hpath.trans hbegins)
      exact Value.isOpenAt_insertAt hbetween hnot
        (hopen o (List.mem_cons_of_mem _ ho) q hbegins hne)
    obtain ⟨tree', htree'⟩ := ih hrest hopen'
    refine ⟨tree', ?_⟩
    rw [insertAll, hbetween]
    exact htree'

/-- What stands apart from all overrides is as it was. -/
lemma at?_insertAll_of_apart (h : insertAll tree overrides = .ok tree')
    (hapart : ∀ o ∈ overrides, o.1.Apart q) : tree'.at? q = tree.at? q := by
  induction overrides generalizing tree with
  | nil =>
    obtain rfl := Except.ok.inj h
    rfl
  | cons first rest ih =>
    obtain ⟨path, v⟩ := first
    obtain ⟨between, hfirst, hrest⟩ := insertAll_cons_eq_ok h
    rw [ih hrest fun o ho => hapart o (List.mem_cons_of_mem _ ho)]
    exact Value.at?_insertAt_of_apart hfirst (hapart (path, v) List.mem_cons_self)

/-- Each override is at its path. -/
lemma at?_insertAll (h : insertAll tree overrides = .ok tree') (hapart : AllApart overrides)
    {o : Path × Value} (ho : o ∈ overrides) : tree'.at? o.1 = some o.2 := by
  induction overrides generalizing tree with
  | nil => cases ho
  | cons first rest ih =>
    obtain ⟨path, v⟩ := first
    obtain ⟨hfirst, hrest⟩ := List.pairwise_cons.mp hapart
    obtain ⟨between, hbetween, hinsert⟩ := insertAll_cons_eq_ok h
    rcases List.mem_cons.mp ho with rfl | hmem
    · rw [at?_insertAll_of_apart hinsert fun later hlater => (hfirst later hlater).symm]
      exact Value.at?_insertAt hbetween
    · exact ih hinsert hrest hmem

/-- A path that goes through no override stays open. -/
lemma isOpenAt_insertAll (h : insertAll tree overrides = .ok tree')
    (hnot : ∀ o ∈ overrides, ¬ o.1 <+: q) (hopen : tree.IsOpenAt q) : tree'.IsOpenAt q := by
  induction overrides generalizing tree with
  | nil =>
    obtain rfl := Except.ok.inj h
    exact hopen
  | cons first rest ih =>
    obtain ⟨path, v⟩ := first
    obtain ⟨between, hfirst, hrest⟩ := insertAll_cons_eq_ok h
    apply ih hrest fun o ho => hnot o (List.mem_cons_of_mem _ ho)
    exact Value.isOpenAt_insertAt hfirst (hnot (path, v) List.mem_cons_self) hopen

lemma keyed_insertAll (h : insertAll tree overrides = .ok tree') (htree : Keyed tree)
    (hvalues : ∀ o ∈ overrides, Keyed o.2) : Keyed tree' := by
  induction overrides generalizing tree with
  | nil =>
    obtain rfl := Except.ok.inj h
    exact htree
  | cons first rest ih =>
    obtain ⟨path, v⟩ := first
    obtain ⟨between, hfirst, hrest⟩ := insertAll_cons_eq_ok h
    apply ih hrest ?_ fun o ho => hvalues o (List.mem_cons_of_mem _ ho)
    exact htree.insertAt (hvalues (path, v) List.mem_cons_self) hfirst

/-! ### Variables -/

/-- Whether an environment gives a text for a path of the configuration. -/
def Gives (env : Environment) (start : String) (path : Path) (s : String) : Prop :=
  ∃ name, (name, s) ∈ env ∧ overridePath? start name = some path

/-- The text that an environment gives for a path: that of the first variable for it. -/
def override? (env : Environment) (start : String) (path : Path) : Option String :=
  (env.find? fun v => overridePath? start v.1 = some path).map (·.2)

variable {env : Environment} {start s : String} {path : Path}

lemma gives_of_override? (h : env.override? start path = some s) : env.Gives start path s := by
  obtain ⟨⟨name, s⟩, hfind, rfl⟩ := Option.map_eq_some_iff.mp h
  exact ⟨name, List.mem_of_find?_eq_some hfind, of_decide_eq_true (List.find?_some hfind :)⟩

lemma not_gives_of_override? (h : env.override? start path = none) : ¬ env.Gives start path s := by
  rintro ⟨name, hmem, hpath⟩
  have hother := List.find?_eq_none.mp (Option.map_eq_none_iff.mp h) (name, s) hmem
  exact hother (decide_eq_true hpath)

lemma mem_overrides {o : Path × Value} :
    o ∈ Environment.overrides start env ↔ ∃ s, env.Gives start o.1 s ∧ o.2 = coerce s := by
  rw [Environment.overrides, List.mem_filterMap]
  constructor
  · rintro ⟨⟨name, s⟩, hmem, hgiven⟩
    obtain ⟨path, hpath, rfl⟩ := Option.map_eq_some_iff.mp hgiven
    exact ⟨s, ⟨name, hmem, hpath⟩, rfl⟩
  · rintro ⟨s, ⟨name, hmem, hpath⟩, hvalue⟩
    refine ⟨(name, s), hmem, ?_⟩
    dsimp only
    rw [hpath, Option.map_some, ← hvalue]

lemma splitDoubled_ne_nil (sep : Char) (cs : List Char) : Text.splitDoubled sep cs ≠ [] := by
  fun_cases Text.splitDoubled sep cs <;> simp

/-- No path is empty. -/
lemma Gives.path_ne_nil (h : env.Gives start path s) : path ≠ [] := by
  obtain ⟨name, -, hpath⟩ := h
  rw [overridePath?] at hpath
  split at hpath
  · cases hpath
  · obtain ⟨rest, -, rfl⟩ := Option.map_eq_some_iff.mp hpath
    simpa using splitDoubled_ne_nil '_' _

/-- What a variable gives is a truth value or a text. -/
lemma coerce_cases (s : String) : (∃ b, coerce s = .bool b) ∨ ∃ t, coerce s = .text t := by
  rw [coerce]
  split
  · exact .inl ⟨true, rfl⟩
  · split
    · exact .inl ⟨false, rfl⟩
    · exact .inr ⟨s, rfl⟩

lemma isNull_coerce (s : String) : (coerce s).isNull = false := by
  rcases coerce_cases s with ⟨b, h⟩ | ⟨t, h⟩ <;> rw [h] <;> rfl

lemma isMap_coerce (s : String) : (coerce s).isMap = false := by
  rcases coerce_cases s with ⟨b, h⟩ | ⟨t, h⟩ <;> rw [h] <;> rfl

/-! ### The tree -/

lemma path_ne_nil_of_mem {o : Path × Value} (ho : o ∈ Environment.overrides start env) : o.1 ≠ [] := by
  obtain ⟨s, hgives, -⟩ := mem_overrides.mp ho
  exact hgives.path_ne_nil

lemma exists_overrideTree (hapart : AllApart (Environment.overrides start env)) :
    ∃ tree, env.overrideTree start = .ok tree :=
  exists_insertAll hapart fun _ _ q _ _ => Value.isOpenAt_empty q

lemma keyed_overrideTree (htree : env.overrideTree start = .ok tree) : Keyed tree := by
  refine keyed_insertAll htree .nil fun o ho => ?_
  obtain ⟨s, -, hvalue⟩ := mem_overrides.mp ho
  rw [hvalue]
  exact .other (isMap_coerce s)

lemma overrideTree_eq_map (htree : env.overrideTree start = .ok tree) :
    ∃ entries : Mapping, tree = .map entries := by
  have hnot : ∀ o ∈ Environment.overrides start env, ¬ o.1 <+: [] := fun o ho hbegins =>
    path_ne_nil_of_mem ho (List.prefix_nil.mp hbegins)
  exact isOpenAt_insertAll htree hnot (Value.isOpenAt_empty []) tree (Value.at?_nil tree)

/-- What a variable gives for a path is at that path. -/
lemma at?_overrideTree_of_override? (hapart : AllApart (Environment.overrides start env))
    (htree : env.overrideTree start = .ok tree) (h : env.override? start path = some s) :
    tree.at? path = some (coerce s) := by
  have hmem : (path, coerce s) ∈ Environment.overrides start env :=
    mem_overrides.mpr ⟨s, gives_of_override? h, rfl⟩
  exact at?_insertAll htree hapart hmem

end Metastore.Environment
