import Metastore.Proofs.Environment.Overrides
import Metastore.Proofs.Text.Ascii
import Metastore.Proofs.Text.Split
import Metastore.Proofs.Value.Leaves

/-!
# The leaves of the tree of the overrides

Overrides can be set one after another exactly if none comes after one that stands on its way
(`Environment.exists_insertAll_iff`), and then the leaves of the tree are the overrides that no later one
replaces (`Environment.leavesOf_insertAll`). Where the paths stand apart these are all of them, at the paths
and with the values that the variables say (`Environment.overrides_leaves`).
-/

namespace Metastore.Environment

open Value (Leaf leavesOf IsFilled)

variable {overrides : List (Path × Value)} {o : Path × Value} {entries : Mapping} {tree : Value}

/-- The leaf that is set by an override. -/
def leafOf (o : Path × Value) : Leaf := (o.1.map .text, o.2)

/-- Whether overrides set leaves inside a mapping. -/
def SetLeaves (overrides : List (Path × Value)) : Prop := ∀ o ∈ overrides, o.1 ≠ [] ∧ o.2.isMap = false

/-- Whether no override stands on the way of a later one. -/
def NoneInTheWay (overrides : List (Path × Value)) : Prop :=
  overrides.Pairwise fun earlier later => earlier.1 <+: later.1 → earlier.1 = later.1

/-- The overrides that no later one replaces. -/
def standing : List (Path × Value) → List (Path × Value)
  | [] => []
  | o :: rest => if ∃ later ∈ rest, later.1 <+: o.1 then standing rest else o :: standing rest

/-! ### One override after another -/

/-- The leaves after overrides were set: those of the overrides that are not replaced, and those that were
there and are not replaced. -/
lemma leavesOf_insertAll (hfilled : IsFilled entries) (hset : SetLeaves overrides)
    (h : insertAll (.map entries) overrides = .ok tree) :
    ∃ entries' : Mapping, tree = .map entries' ∧ IsFilled entries' ∧ (leavesOf entries').Perm
      ((standing overrides).map leafOf ++
        (leavesOf entries).filter fun leaf => ∀ o ∈ overrides, ¬ leaf.IsUnder o.1) := by
  induction overrides generalizing entries with
  | nil => exact ⟨entries, (Except.ok.inj h).symm, hfilled, by simp [standing]⟩
  | cons first rest ih =>
    obtain ⟨between, hfirst, hrest⟩ := insertAll_cons_eq_ok h
    obtain ⟨⟨hpath, hvalue⟩, hset⟩ := List.forall_mem_cons.mp hset
    obtain ⟨inner, rfl, hinner⟩ := Value.leavesOf_insertAt hpath hfilled hvalue hfirst
    obtain ⟨entries', rfl, hfilled', hperm⟩ := ih (hfilled.insertAt hpath hvalue hfirst) hset hrest
    refine ⟨entries', rfl, hfilled', hperm.trans ?_⟩
    have hleaf : (∀ later ∈ rest, ¬ (leafOf first).IsUnder later.1) ↔
        ¬ ∃ later ∈ rest, later.1 <+: first.1 := by
      simp only [leafOf, Leaf.IsUnder, Value.map_text_prefix_iff, not_exists, not_and]
    have hold : ((leavesOf entries).filter fun leaf => ¬ leaf.IsUnder first.1).filter
          (fun leaf => ∀ o ∈ rest, ¬ leaf.IsUnder o.1) =
        (leavesOf entries).filter fun leaf => ∀ o ∈ first :: rest, ¬ leaf.IsUnder o.1 := by
      rw [List.filter_filter]
      refine List.filter_congr fun leaf _ => ?_
      rw [Bool.eq_iff_iff, Bool.and_eq_true, decide_eq_true_eq, decide_eq_true_eq, decide_eq_true_eq,
        List.forall_mem_cons, and_comm]
    refine ((hinner.filter _).append_left _).trans ?_
    rw [standing, List.filter_cons, hold]
    by_cases hreplaced : ∃ later ∈ rest, later.1 <+: first.1
    · rw [if_pos hreplaced, if_neg (by simpa [leafOf] using mt hleaf.mp (not_not.mpr hreplaced))]
    · rw [if_neg hreplaced, if_pos (by simpa [leafOf] using hleaf.mpr hreplaced)]
      exact List.perm_middle

/-- Overrides can be set unless one of them comes after one that stands on its way, or a leaf stands there
already. -/
lemma exists_insertAll_iff (hfilled : IsFilled entries) (hset : SetLeaves overrides) :
    (∃ tree, insertAll (.map entries) overrides = .ok tree) ↔
      NoneInTheWay overrides ∧ ∀ o ∈ overrides, Value.IsFree o.1 (leavesOf entries) := by
  induction overrides generalizing entries with
  | nil => simp [insertAll, NoneInTheWay]
  | cons first rest ih =>
    obtain ⟨⟨hpath, hvalue⟩, hset⟩ := List.forall_mem_cons.mp hset
    rw [NoneInTheWay, List.pairwise_cons, List.forall_mem_cons]
    constructor
    · rintro ⟨tree, h⟩
      obtain ⟨between, hfirst, hrest⟩ := insertAll_cons_eq_ok h
      obtain ⟨inner, rfl, hinner⟩ := Value.leavesOf_insertAt hpath hfilled hvalue hfirst
      obtain ⟨hnone, hfree⟩ := (ih (hfilled.insertAt hpath hvalue hfirst) hset).mp ⟨tree, hrest⟩
      have hfree' (o : Path × Value) (ho : o ∈ rest) := (Value.isFree_insertAt_iff hinner).mp (hfree o ho)
      exact ⟨⟨fun o ho => (hfree' o ho).1, hnone⟩, (Value.exists_insertAt_iff hfilled).mp ⟨_, hfirst⟩,
        fun o ho => (hfree' o ho).2⟩
    · rintro ⟨⟨hlater, hnone⟩, hfree, hfree'⟩
      obtain ⟨between, hfirst⟩ : ∃ between, (Value.map entries).insertAt first.1 first.2 = .ok between :=
        (Value.exists_insertAt_iff hfilled).mpr hfree
      obtain ⟨inner, rfl, hinner⟩ := Value.leavesOf_insertAt hpath hfilled hvalue hfirst
      obtain ⟨tree, hrest⟩ := (ih (hfilled.insertAt hpath hvalue hfirst) hset).mpr
        ⟨hnone, fun o ho => (Value.isFree_insertAt_iff hinner).mpr ⟨hlater o ho, hfree' o ho⟩⟩
      refine ⟨tree, ?_⟩
      rw [insertAll, hfirst]
      exact hrest

lemma noneInTheWay_of_apart (hapart : AllApart overrides) : NoneInTheWay overrides :=
  hapart.imp fun h hbegins => absurd hbegins h.1

lemma standing_of_apart (hapart : AllApart overrides) : standing overrides = overrides := by
  induction overrides with
  | nil => rfl
  | cons first rest ih =>
    obtain ⟨hfirst, hrest⟩ := List.pairwise_cons.mp hapart
    rw [standing, if_neg, ih hrest]
    rintro ⟨later, hlater, hbegins⟩
    exact (hfirst later hlater).2 hbegins

/-- An override stands if whatever replaces it later sets the same again. -/
lemma mem_standing : o ∈ standing overrides ↔
    ∃ front back, overrides = front ++ o :: back ∧ ∀ later ∈ back, later.1 <+: o.1 → later = o := by
  induction overrides with
  | nil => simp [standing]
  | cons first rest ih =>
    rw [standing]
    constructor
    · intro h
      by_cases hlast : o = first ∧ ¬ ∃ later ∈ rest, later.1 <+: first.1
      · obtain ⟨rfl, hkept⟩ := hlast
        exact ⟨[], rest, rfl, fun later hmem hbegins => absurd ⟨later, hmem, hbegins⟩ hkept⟩
      · have hrest : o ∈ standing rest := by
          split at h
          · exact h
          · next hkept => exact (List.mem_cons.mp h).resolve_left fun heq => hlast ⟨heq, hkept⟩
        obtain ⟨front, back, rfl, hback⟩ := ih.mp hrest
        exact ⟨first :: front, back, rfl, hback⟩
    · rintro ⟨front, back, heq, hback⟩
      cases front with
      | nil =>
        obtain ⟨rfl, rfl⟩ := List.cons.inj heq
        split
        · next hreplaced =>
          -- what replaces the override sets the same, and so the last of its kind stands
          obtain ⟨later, hmem, hbegins⟩ := hreplaced
          obtain rfl := hback later hmem hbegins
          obtain ⟨middle, back, rfl⟩ := List.append_of_mem hmem
          exact ih.mpr ⟨middle, back, rfl, fun o ho => hback o (by simp [ho])⟩
        · exact List.mem_cons_self
      | cons _ front =>
        obtain ⟨rfl, rfl⟩ := List.cons.inj heq
        have hrest := ih.mpr ⟨front, back, rfl, hback⟩
        split
        · exact hrest
        · exact List.mem_cons_of_mem _ hrest

/-! ### What variables say -/

/-- Whether a text is a word in any case of its letters. -/
def Spells (s word : String) : Prop := s.toList.map Char.toLower = word.toList

instance (s word : String) : Decidable (Spells s word) := inferInstanceAs (Decidable (_ = _))

/-- What the text of a variable means: a truth value if it is the word for one, or else the text as it is. -/
def meaning (s : String) : Value :=
  if Spells s "true" then .bool true else if Spells s "false" then .bool false else .text s

/-- What a variable says: at which path the configuration has which value. The keys of the path stand in the
rest of its name, in lower case, with two underscores between them. -/
structure Says (start : String) (assignment : String × String) (path : Path) (v : Value) : Prop where
  isTaken : ∃ rest, assignment.1 = start ++ rest ∧ rest ≠ locationName ∧
    Text.AreCut '_' (path.map String.toList) (Text.lower rest).toList
  value : v = meaning assignment.2

/-- What a variable sets. -/
def setBy (start : String) (assignment : String × String) : Option (Path × Value) :=
  (overridePath? start assignment.1).map (·, coerce assignment.2)

variable {env : Environment} {start s : String} {assignment : String × String} {path : Path} {v : Value}

lemma overrides_eq_filterMap (start : String) (env : Environment) :
    env.overrides start = env.filterMap (setBy start) := rfl

lemma lower_beq_iff {word : String} (hword : ∀ d ∈ word.toList, ¬ Text.IsForeign d) :
    (Text.lower s == word) = true ↔ Spells s word := by
  rw [beq_iff_eq, Spells, ← Text.lowerAfter_eq_iff hword [], Text.lower, ← String.toList_inj,
    String.toList_ofList]

lemma coerce_eq_meaning (s : String) : coerce s = meaning s := by
  have hyes : (Text.lower s == "true") = true ↔ Spells s "true" := lower_beq_iff (by simp [Text.IsForeign])
  have hno : (Text.lower s == "false") = true ↔ Spells s "false" := lower_beq_iff (by simp [Text.IsForeign])
  simp only [coerce, meaning, hyes, hno]

lemma overridePath?_eq_some_iff {name : String} : overridePath? start name = some path ↔
    ∃ rest, name = start ++ rest ∧ rest ≠ locationName ∧
      Text.AreCut '_' (path.map String.toList) (Text.lower rest).toList := by
  simp only [Text.lower, String.toList_ofList]
  constructor
  · intro h
    rw [overridePath?] at h
    split at h
    · cases h
    · next hname =>
      obtain ⟨rest, hrest, rfl⟩ := Option.map_eq_some_iff.mp h
      have hjoined : name = start ++ String.ofList rest := by
        rw [← String.toList_inj, String.toList_append, String.toList_ofList]
        exact (List.isPrefixOf?_eq_some_iff_append_eq.mp hrest).symm
      refine ⟨String.ofList rest, hjoined, ?_, ?_⟩
      · rintro hlocation
        exact hname (by rw [hjoined, hlocation])
      · simpa [Function.comp_def] using Text.areCut_splitDoubled '_' (Text.lowerAfter [] rest)
  · rintro ⟨rest, rfl, hlocation, hcut⟩
    have hrest : start.toList.isPrefixOf? (start ++ rest).toList = some rest.toList := by
      rw [String.toList_append]
      exact List.isPrefixOf?_eq_some_iff_append_eq.mpr rfl
    rw [overridePath?, if_neg (by simpa using hlocation), hrest, Option.map_some, hcut.splitDoubled_eq]
    simp [Function.comp_def]

lemma says_iff : Says start assignment path v ↔ setBy start assignment = some (path, v) := by
  rw [setBy, Option.map_eq_some_iff]
  constructor
  · rintro ⟨htaken, rfl⟩
    exact ⟨path, overridePath?_eq_some_iff.mpr htaken, by rw [coerce_eq_meaning]⟩
  · rintro ⟨_, htaken, ⟨⟩⟩
    exact ⟨overridePath?_eq_some_iff.mp htaken, coerce_eq_meaning _⟩

lemma mem_overrides_iff :
    (path, v) ∈ env.overrides start ↔ ∃ assignment ∈ env, Says start assignment path v := by
  simp only [overrides_eq_filterMap, List.mem_filterMap, says_iff]

/-- What holds of the overrides in order holds of what the variables say in order. -/
lemma pairwise_overrides_iff {R : Path × Value → Path × Value → Prop} : (env.overrides start).Pairwise R ↔
    env.Pairwise fun a b => ∀ p v q w, Says start a p v → Says start b q w → R (p, v) (q, w) := by
  rw [overrides_eq_filterMap, List.pairwise_filterMap]
  refine Iff.of_eq (congrArg (List.Pairwise · env) ?_)
  funext a b
  simp only [says_iff, eq_iff_iff, Prod.forall]
  exact ⟨fun h p v q w hp hq => h p v hp q w hq, fun h p v hp q w hq => h p v q w hp hq⟩

lemma setLeaves_overrides (start : String) (env : Environment) : SetLeaves (env.overrides start) := by
  intro o ho
  obtain ⟨s, -, hvalue⟩ := mem_overrides.mp ho
  exact ⟨path_ne_nil_of_mem ho, hvalue ▸ isMap_coerce s⟩

/-! ### The tree -/

/-- The tree of the overrides can be made exactly if no override comes after one that stands on its way. -/
lemma exists_overrideTree_iff :
    (∃ tree, env.overrideTree start = .ok tree) ↔ NoneInTheWay (env.overrides start) := by
  rw [overrideTree, exists_insertAll_iff .nil (setLeaves_overrides start env)]
  exact and_iff_left (by simp [leavesOf, Value.IsFree])

/-- The leaves of the tree are the overrides that no later one replaces. -/
lemma leavesOf_overrideTree (h : env.overrideTree start = .ok tree) :
    ∃ entries : Mapping, tree = .map entries ∧ IsFilled entries ∧
      (leavesOf entries).Perm ((standing (env.overrides start)).map leafOf) := by
  obtain ⟨entries, rfl, hfilled, hperm⟩ := leavesOf_insertAll .nil (setLeaves_overrides start env) h
  exact ⟨entries, rfl, hfilled, by simpa [leavesOf] using hperm⟩

/-- Where the paths that variables say stand apart, there is a tree, and its leaves are just what the variables
say. -/
theorem overrides_leaves (start : String) (env : Environment)
    (hapart : env.Pairwise fun a b => ∀ p v q w, Says start a p v → Says start b q w → p.Apart q) :
    ∃ entries : Mapping, env.overrideTree start = .ok (.map entries) ∧
      ((leavesOf entries).map (·.1)).Nodup ∧
      ∀ keys v, (keys, v) ∈ leavesOf entries ↔
        ∃ assignment ∈ env, ∃ path : Path, keys = path.map .text ∧ Says start assignment path v := by
  have hall : AllApart (env.overrides start) := pairwise_overrides_iff.mpr hapart
  obtain ⟨tree, htree⟩ := exists_overrideTree_iff.mpr (noneInTheWay_of_apart hall)
  obtain ⟨entries, rfl, -, hperm⟩ := leavesOf_overrideTree htree
  rw [standing_of_apart hall] at hperm
  refine ⟨entries, htree, ?_, fun keys v => ?_⟩
  · rw [(hperm.map (·.1)).nodup_iff, List.map_map, List.Nodup, List.pairwise_map]
    refine hall.imp fun {a b} h hsame => h.1 ?_
    rw [Value.text_injective.list_map hsame]
  · rw [hperm.mem_iff, List.mem_map]
    constructor
    · rintro ⟨⟨path, v⟩, ho, ⟨⟩⟩
      obtain ⟨assignment, hmem, hsays⟩ := mem_overrides_iff.mp ho
      exact ⟨assignment, hmem, path, rfl, hsays⟩
    · rintro ⟨assignment, hmem, path, rfl, hsays⟩
      exact ⟨(path, v), mem_overrides_iff.mpr ⟨assignment, hmem, hsays⟩, rfl⟩

/-- Underscores are split from the left, empty keys are keys, truth values come in any case of their letters,
and the variable for the place of the configuration says nothing. -/
theorem overrides_leaves_underscores :
    let env : Environment := [("REMETA_A___B", "TRUE"), ("REMETA_A__C", "fAlse"), ("REMETA___", "true "),
      ("REMETA_CONFIG", "true"), ("remeta_a", "true")]
    let entries : Mapping := [(.text "a", .map [(.text "_b", .bool true), (.text "c", .bool false)]),
      (.text "", .map [(.text "", .text "true ")])]
    (env.Pairwise fun a b => ∀ p v q w, Says "REMETA_" a p v → Says "REMETA_" b q w → p.Apart q) ∧
      env.overrideTree "REMETA_" = .ok (.map entries) ∧
      ((leavesOf entries).map (·.1)).Nodup ∧
      ∀ keys v, (keys, v) ∈ leavesOf entries ↔
        ∃ assignment ∈ env, ∃ path : Path, keys = path.map .text ∧ Says "REMETA_" assignment path v := by
  intro env entries
  have hall : AllApart (env.overrides "REMETA_") := by decide
  have hapart := pairwise_overrides_iff.mp hall
  have htree : env.overrideTree "REMETA_" = .ok (.map entries) := by rfl
  obtain ⟨found, hfound, hleaves⟩ := overrides_leaves "REMETA_" env hapart
  obtain rfl : entries = found := by simpa using htree.symm.trans hfound
  exact ⟨hapart, htree, hleaves⟩

end Metastore.Environment
