import Metastore.Proofs.Config.Tree
import Metastore.Proofs.Value.Keys
import Metastore.Proofs.Value.Reordered

/-!
# Leaves

A value seen as a tree: its leaves are what stands at the ends of its paths of keys. An empty mapping is a leaf
as well, so that no entry is without one. Where a value that is no mapping is set at a path, it becomes a leaf,
and the leaves at or below that path are gone (`leavesOf_insertAt`); and it can be set at a path exactly if no
leaf stands before the end of it (`exists_insertAt_iff`). Plain data with the same leaves differ in nothing but
the order of entries (`Reordered.of_leavesOf`).
-/

namespace Metastore.Value

/-- A value with the keys on the way to it. -/
abbrev Leaf := List Value × Value

/-- A leaf from further outside, with one key more on the way. -/
def Leaf.below (key : Value) (leaf : Leaf) : Leaf := (key :: leaf.1, leaf.2)

/-- Whether a leaf stands at a path or below it. -/
def Leaf.IsUnder (path : Path) (leaf : Leaf) : Prop := path.map .text <+: leaf.1

instance (path : Path) : DecidablePred (Leaf.IsUnder path) :=
  fun _ => inferInstanceAs (Decidable (_ <+: _))

mutual

/-- The leaves of a value. -/
def leaves : Value → List Leaf
  | .map entries => if entries.isEmpty then [([], .map [])] else leavesOf entries
  | v => [([], v)]

/-- The leaves of the entries of a mapping. -/
def leavesOf : List (Value × Value) → List Leaf
  | [] => []
  | (key, v) :: rest => (leaves v).map (Leaf.below key) ++ leavesOf rest

end

variable {v w new : Value} {entries : Mapping} {key : Value} {path p q : Path} {leaf : Leaf}

lemma text_injective : Function.Injective Value.text := fun _ _ => Value.text.inj

lemma map_text_prefix_iff : p.map Value.text <+: q.map Value.text ↔ p <+: q := by
  constructor
  · intro h
    obtain ⟨more, hmore, heq⟩ := List.prefix_map_iff.mp h
    rwa [text_injective.list_map heq]
  · exact fun h => h.map Value.text

lemma isUnder_below_iff {key : String} {rest : Path} :
    (leaf.below (.text key)).IsUnder (key :: rest) ↔ leaf.IsUnder rest := by
  simp [Leaf.IsUnder, Leaf.below, List.cons_prefix_cons]

lemma leaves_of_isMap (h : v.isMap = false) : v.leaves = [([], v)] := by
  cases v with
  | map entries => cases h
  | _ => rfl

lemma leaves_map (h : entries ≠ []) : (Value.map entries).leaves = leavesOf entries := by
  rw [leaves, if_neg (by simpa using h)]

lemma leaves_ne_nil (v : Value) : v.leaves ≠ [] := by
  match v with
  | .map [] => simp [leaves]
  | .map ((key, w) :: rest) => simp [leaves, leavesOf, leaves_ne_nil w]
  | .null | .bool _ | .int _ | .float _ | .text _ | .date _ | .foreign _ | .list _ | .entry _ _ =>
    simp [leaves]

lemma mem_leavesOf :
    leaf ∈ leavesOf entries ↔ ∃ e ∈ entries, ∃ inner ∈ e.2.leaves, leaf = inner.below e.1 := by
  induction entries with
  | nil => simp [leavesOf]
  | cons first rest ih =>
    obtain ⟨k, v⟩ := first
    rw [leavesOf, List.mem_append, ih, List.mem_map]
    simp [eq_comm]

lemma below_mem_leavesOf {e : Value × Value} (he : e ∈ entries) (h : leaf ∈ e.2.leaves) :
    leaf.below e.1 ∈ leavesOf entries := mem_leavesOf.mpr ⟨e, he, leaf, h, rfl⟩

/-! ### Leaves and paths -/

/-- What is found at a path, and is no mapping, is a leaf. -/
lemma mem_leaves_of_at? (h : v.at? path = some w) (hmap : w.isMap = false) :
    (path.map .text, w) ∈ v.leaves := by
  induction path generalizing v with
  | nil =>
    obtain rfl : v = w := by simpa using h
    simp [leaves_of_isMap hmap]
  | cons key rest ih =>
    cases v with
    | map entries =>
      rw [at?_map_cons] at h
      obtain ⟨child, hchild, hrest⟩ := Option.bind_eq_some_iff.mp h
      have hmem := Mapping.mem_of_getText? hchild
      rw [leaves_map (List.ne_nil_of_mem hmem)]
      exact below_mem_leavesOf hmem (ih hrest)
    | _ => cases h

/-- A leaf of a mapping with entries stands below one of them. -/
lemma exists_of_mem_leaves_map {keys : List Value} (h : (keys, w) ∈ (Value.map entries).leaves) :
    (keys = [] ∧ w = .map entries) ∨ ∃ e ∈ entries, ∃ rest, keys = e.1 :: rest ∧ (rest, w) ∈ e.2.leaves := by
  by_cases hentries : entries = []
  · subst hentries
    exact .inl (Prod.mk.inj (List.mem_singleton.mp h))
  · rw [leaves_map hentries] at h
    obtain ⟨e, he, ⟨rest, _⟩, hinner, hbelow⟩ := mem_leavesOf.mp h
    obtain ⟨rfl, rfl⟩ := Prod.mk.inj hbelow
    exact .inr ⟨e, he, rest, rfl, hinner⟩

/-- Where the keys of mappings are different, leaves are found at their paths. -/
lemma at?_of_mem_leaves (hv : Keyed v) (h : (path.map .text, w) ∈ v.leaves) : v.at? path = some w := by
  induction path generalizing v with
  | nil =>
    cases v with
    | map entries =>
      rcases exists_of_mem_leaves_map h with ⟨-, rfl⟩ | ⟨e, -, rest, hkeys, -⟩
      · rfl
      · cases hkeys
    | _ => obtain ⟨-, rfl⟩ := Prod.mk.inj (List.mem_singleton.mp h); rfl
  | cons key rest ih =>
    cases v with
    | map entries =>
      rcases exists_of_mem_leaves_map h with ⟨hkeys, -⟩ | ⟨e, he, more, hkeys, hinner⟩
      · cases hkeys
      · obtain ⟨hkey, rfl⟩ := List.cons.inj hkeys
        have hfound : Mapping.getText? entries key = some e.2 := by
          rw [Mapping.getText?, hkey]
          exact hv.distinct.get?_of_mem he (by rw [← hkey]; rfl)
        rw [at?_map_cons, hfound]
        exact ih (hv.of_mem he) hinner
    | _ => cases List.mem_singleton.mp h

/-! ### One more leaf -/

/-- Whether a mapping has different keys at every depth, and no mapping without entries inside. -/
structure IsFilled (entries : Mapping) : Prop where
  keyed : Keyed (.map entries)
  full : ∀ leaf ∈ leavesOf entries, leaf.2.isMap = false

lemma IsFilled.nil : IsFilled [] := ⟨.nil, by simp [leavesOf]⟩

/-- The leaves of what stands at a key, if something does. -/
def leavesAt (entries : Mapping) (key : String) : List Leaf := (entries.getText? key).elim [] leaves

/-- The leaves below a key are those of what stands there; the others are those of the other entries. -/
lemma leavesOf_perm_erase (h : entries.Distinct) (key : String) :
    (leavesOf entries).Perm
      ((leavesAt entries key).map (Leaf.below (.text key)) ++ leavesOf (entries.erase (.text key))) := by
  induction entries with
  | nil => exact .refl _
  | cons first rest ih =>
    obtain ⟨k, v⟩ := first
    have hrest := ih (List.pairwise_cons.mp h).2
    rw [leavesAt] at hrest ⊢
    rw [leavesOf, Mapping.getText?_cons]
    by_cases hk : k.isSameKey (.text key) = true
    · obtain rfl := Mapping.eq_text_of_isSameKey hk
      have hnone : Mapping.getText? rest key = none := h.get?_rest hk
      have herase : Mapping.erase ((.text key, v) :: rest) (.text key) =
          Mapping.erase rest (.text key) := by simp [Mapping.erase]
      rw [hnone] at hrest
      rw [if_pos hk, herase]
      exact hrest.append_left _
    · have herase : Mapping.erase ((k, v) :: rest) (.text key) =
          (k, v) :: Mapping.erase rest (.text key) := by simp [Mapping.erase, hk]
      rw [if_neg hk, herase, leavesOf]
      exact (hrest.append_left _).trans (List.perm_append_comm_assoc _ _ _)

lemma mem_leavesOf_of_leavesAt {key : String} (h : leaf ∈ leavesAt entries key) :
    leaf.below (.text key) ∈ leavesOf entries := by
  rw [leavesAt] at h
  cases hkey : entries.getText? key with
  | none => simp [hkey] at h
  | some v =>
    rw [hkey] at h
    exact below_mem_leavesOf (Mapping.mem_of_getText? hkey) h

/-- An inner mapping has the leaves that stand below it. -/
lemma IsFilled.leavesAt_eq {inner : Mapping} {key : String} (h : IsFilled entries)
    (hchild : child entries key = .map inner) : leavesAt entries key = leavesOf inner := by
  have hfull {leaf : Leaf} (hleaf : leaf ∈ leavesAt entries key) : leaf.2.isMap = false :=
    h.full (leaf.below (.text key)) (mem_leavesOf_of_leavesAt hleaf)
  rw [leavesAt] at hfull ⊢
  rw [child] at hchild
  cases hkey : entries.getText? key with
  | none =>
    rw [hkey] at hchild
    obtain rfl : [] = inner := by simpa using hchild
    rfl
  | some v =>
    rw [hkey] at hchild hfull
    obtain rfl : v = Value.map inner := hchild
    refine leaves_map ?_
    rintro rfl
    cases hfull (List.mem_singleton_self ([], Value.map []))

lemma IsFilled.child {inner : Mapping} {key : String} (h : IsFilled entries)
    (hchild : child entries key = .map inner) : IsFilled inner := by
  refine ⟨hchild ▸ h.keyed.child key, fun leaf hleaf => ?_⟩
  rw [← h.leavesAt_eq hchild] at hleaf
  exact h.full (leaf.below (.text key)) (mem_leavesOf_of_leavesAt hleaf)

/-- Of the leaves of a mapping, those that are not at or below a path. -/
lemma filter_leavesOf (h : entries.Distinct) (key : String) (rest : Path) :
    ((leavesOf entries).filter fun leaf => ¬ leaf.IsUnder (key :: rest)).Perm
      (((leavesAt entries key).filter fun leaf => ¬ leaf.IsUnder rest).map (Leaf.below (.text key)) ++
        leavesOf (entries.erase (.text key))) := by
  refine ((leavesOf_perm_erase h key).filter _).trans (List.Perm.of_eq ?_)
  rw [List.filter_append, List.filter_map]
  congr 1
  · simp only [Function.comp_def, isUnder_below_iff]
  · -- what stands below another key does not stand below this one
    rw [List.filter_eq_self]
    intro leaf hleaf
    obtain ⟨e, he, inner, -, rfl⟩ := mem_leavesOf.mp hleaf
    rw [decide_eq_true_eq]
    intro hunder
    obtain ⟨hkey, -⟩ := List.cons_prefix_cons.mp hunder
    have hother := (List.mem_filter.mp he).2
    rw [← hkey, isSameKey_self_text] at hother
    cases hother

/-- Setting a value adds its leaf and takes away those at and below its path. -/
lemma leavesOf_insertAt (hpath : p ≠ []) (hfilled : IsFilled entries) (hnew : new.isMap = false)
    (h : (Value.map entries).insertAt p new = .ok v) :
    ∃ entries' : Mapping, v = .map entries' ∧ (leavesOf entries').Perm
      ((p.map .text, new) :: (leavesOf entries).filter fun leaf => ¬ leaf.IsUnder p) := by
  induction p generalizing entries v with
  | nil => exact absurd rfl hpath
  | cons key rest ih =>
    obtain ⟨_, w, ⟨⟩, hw, rfl⟩ := insertAt_cons_eq_ok h
    have hbelow : w.leaves.Perm
        ((rest.map .text, new) :: (leavesAt entries key).filter fun leaf => ¬ leaf.IsUnder rest) := by
      cases rest with
      | nil =>
        obtain rfl : new = w := by
          cases hchild : child entries key <;> exact Except.ok.inj (hchild ▸ hw)
        simp [leaves_of_isMap hnew, Leaf.IsUnder]
      | cons next more =>
        obtain ⟨inner, _, hchild, -, -⟩ := insertAt_cons_eq_ok hw
        rw [hchild] at hw
        obtain ⟨inner', rfl, hperm⟩ := ih (List.cons_ne_nil _ _) (hfilled.child hchild) hw
        rw [leaves_map, hfilled.leavesAt_eq hchild]
        · exact hperm
        · rintro rfl
          cases hperm.nil_eq
    refine ⟨_, rfl, ?_⟩
    have hdistinct := hfilled.keyed.distinct
    have hafter := leavesOf_perm_erase (hdistinct.set (.text key) w) key
    rw [← Mapping.setText, leavesAt, Mapping.getText?_setText, Mapping.erase_setText_self,
      Option.elim_some] at hafter
    have hold := (filter_leavesOf hdistinct key rest).symm
    exact hafter.trans (((hbelow.map _).append_right _).trans (hold.cons _))

lemma IsFilled.insertAt {entries' : Mapping} (h : IsFilled entries) (hpath : p ≠ [])
    (hnew : new.isMap = false) (hset : (Value.map entries).insertAt p new = .ok (.map entries')) :
    IsFilled entries' := by
  obtain ⟨_, ⟨⟩, hperm⟩ := leavesOf_insertAt hpath h hnew hset
  refine ⟨h.keyed.insertAt (.other hnew) hset, fun leaf hleaf => ?_⟩
  rcases List.mem_cons.mp (hperm.mem_iff.mp hleaf) with rfl | hold
  · exact hnew
  · exact h.full leaf (List.mem_of_mem_filter hold)

lemma mem_leaves_map_iff (hmap : leaf.2.isMap = false) :
    leaf ∈ (Value.map entries).leaves ↔ leaf ∈ leavesOf entries := by
  by_cases hentries : entries = []
  · subst hentries
    refine iff_of_false (fun hleaf => ?_) List.not_mem_nil
    rw [List.mem_singleton.mp hleaf] at hmap
    cases hmap
  · rw [leaves_map hentries]

/-- Whether no leaf stands on the way to the end of a path. -/
def IsFree (path : Path) (leaves : List Leaf) : Prop :=
  ∀ leaf ∈ leaves, leaf.1 <+: path.map .text → leaf.1 = path.map .text

/-- A value can be set at a path unless a leaf stands on the way. -/
lemma exists_insertAt_iff (hfilled : IsFilled entries) :
    (∃ v, (Value.map entries).insertAt p new = .ok v) ↔ IsFree p (leavesOf entries) := by
  constructor
  · rintro ⟨v, h⟩ ⟨keys, w⟩ hleaf hbegins
    obtain ⟨q, hq, rfl⟩ := List.prefix_map_iff.mp hbegins
    have hw : w.isMap = false := hfilled.full _ hleaf
    have hat := at?_of_mem_leaves hfilled.keyed ((mem_leaves_map_iff hw).mpr hleaf)
    by_contra hne
    obtain ⟨inner, rfl⟩ := isOpenAt_of_insertAt h hq (fun heq => hne (by rw [heq])) w hat
    cases hw
  · intro hfree
    refine exists_insertAt (fun q hq hne w hw => ?_) new
    rcases Bool.eq_false_or_eq_true w.isMap with hmap | hmap
    · exact exists_eq_map hmap
    · have hleaf := (mem_leaves_map_iff hmap).mp (mem_leaves_of_at? hw hmap)
      exact absurd (text_injective.list_map (hfree _ hleaf (hq.map _))) hne

/-- After a value was set, the way to another path is free if it was free before and does not go through the
new leaf. -/
lemma isFree_insertAt_iff {after before : List Leaf}
    (h : after.Perm ((p.map .text, new) :: before.filter fun leaf => ¬ leaf.IsUnder p)) :
    IsFree q after ↔ (p <+: q → p = q) ∧ IsFree q before := by
  have hafter : IsFree q after ↔ (p <+: q → p = q) ∧
      ∀ leaf ∈ before, ¬ leaf.IsUnder p → leaf.1 <+: q.map .text → leaf.1 = q.map .text := by
    simp [IsFree, h.mem_iff, map_text_prefix_iff, text_injective.list_map.eq_iff]
  rw [hafter]
  refine and_congr_right fun hpq => ⟨fun hfree leaf hleaf hbegins => ?_, ?_⟩
  swap
  · exact fun hfree leaf hleaf _ => hfree leaf hleaf
  by_cases hbelow : leaf.IsUnder p
  · -- a leaf between the two paths is where both of them end
    have heq := hpq (map_text_prefix_iff.mp (hbelow.trans hbegins))
    subst heq
    exact hbegins.eq_of_length_le hbelow.length_le
  · exact hfree leaf hleaf hbelow hbegins

/-! ### Values with the same leaves -/

/-- What stands below a key are the leaves of what stands at it. -/
lemma below_mem_leavesOf_iff {e : Value × Value} (hnamed : entries.IsNamed) (he : e ∈ entries) :
    leaf.below e.1 ∈ leavesOf entries ↔ leaf ∈ e.2.leaves := by
  constructor
  · intro h
    obtain ⟨other, hother, inner, hinner, hbelow⟩ := mem_leavesOf.mp h
    obtain ⟨hkeys, hvalue⟩ := Prod.mk.inj hbelow
    obtain ⟨hkey, hrest⟩ := List.cons.inj hkeys
    obtain rfl : e = other := List.inj_on_of_nodup_map hnamed.distinct he hother hkey
    rwa [Prod.ext hrest hvalue]
  · exact below_mem_leavesOf he

/-- With the same leaves, what stands at a key of one mapping has a match at that key of the other. -/
lemma exists_same_leaves {others : Mapping} {e : Value × Value} (hentries : entries.IsNamed)
    (hothers : others.IsNamed) (hsame : ∀ leaf, leaf ∈ leavesOf entries ↔ leaf ∈ leavesOf others)
    (he : e ∈ entries) :
    ∃ w, (e.1, w) ∈ others ∧ ∀ leaf, leaf ∈ e.2.leaves ↔ leaf ∈ w.leaves := by
  obtain ⟨leaf, hleaf⟩ := List.exists_mem_of_ne_nil _ e.2.leaves_ne_nil
  have hmem := (hsame _).mp (below_mem_leavesOf he hleaf)
  obtain ⟨⟨key, w⟩, hw, inner, -, hbelow⟩ := mem_leavesOf.mp hmem
  obtain ⟨rfl, -⟩ := List.cons.inj (Prod.mk.inj hbelow).1
  refine ⟨w, hw, fun leaf => ?_⟩
  rw [← below_mem_leavesOf_iff hentries he, hsame]
  exact below_mem_leavesOf_iff hothers hw

/-- What is no mapping is its own only leaf. -/
lemma eq_of_same_leaves (hmap : v.isMap = false) (hsame : ∀ leaf, leaf ∈ v.leaves ↔ leaf ∈ w.leaves) :
    v = w := by
  have hmem : ([], v) ∈ w.leaves := by
    rw [← hsame, leaves_of_isMap hmap]
    exact List.mem_singleton_self _
  cases w with
  | map entries =>
    rcases exists_of_mem_leaves_map hmem with ⟨-, rfl⟩ | ⟨e, -, rest, hkeys, -⟩
    · cases hmap
    · cases hkeys
  | _ => exact (Prod.mk.inj (List.mem_singleton.mp hmem)).2

namespace Reordered

variable {others : Mapping}

/-- Mappings with the same leaves differ in the order of entries if what stands at their keys does. -/
lemma map_of_inner (hentries : Plain (.map entries)) (hothers : Plain (.map others))
    (hsame : ∀ leaf, leaf ∈ leavesOf entries ↔ leaf ∈ leavesOf others)
    (hinner : ∀ e ∈ entries, ∀ w, Plain w → (∀ leaf, leaf ∈ e.2.leaves ↔ leaf ∈ w.leaves) →
      Reordered e.2 w) :
    Reordered (.map entries) (.map others) := by
  refine map_of_keys hentries.isNamed hothers.isNamed (fun e he => ?_) (fun e he => ?_)
  · obtain ⟨w, hw, hleaves⟩ := exists_same_leaves hentries.isNamed hothers.isNamed hsame he
    exact ⟨w, hw, hinner e he w (hothers.of_mem hw) hleaves⟩
  · have hback := fun leaf => (hsame leaf).symm
    obtain ⟨v, hv, -⟩ := exists_same_leaves hothers.isNamed hentries.isNamed hback he
    exact ⟨v, hv⟩

/-- Plain data in which no mapping is empty differ in nothing but order if they have the same leaves. -/
lemma of_leaves (hv : Plain v) (hw : Plain w) (hfull : ∀ leaf ∈ v.leaves, leaf.2.isMap = false)
    (hsame : ∀ leaf, leaf ∈ v.leaves ↔ leaf ∈ w.leaves) : Reordered v w := by
  induction hv generalizing w with
  | @map entries hkeys hvalues hdistinct ih =>
    rcases Bool.eq_false_or_eq_true w.isMap with hmap | hmap
    · obtain ⟨others, rfl⟩ := exists_eq_map hmap
      have hne {m : Mapping} (hm : ∀ leaf ∈ (Value.map m).leaves, leaf.2.isMap = false) : m ≠ [] := by
        rintro rfl
        cases hm _ (List.mem_singleton_self ([], Value.map []))
      have hentries := leaves_map (hne hfull)
      have hothers := leaves_map (hne fun leaf hleaf => hfull leaf ((hsame leaf).mpr hleaf))
      rw [hentries, hothers] at hsame
      rw [hentries] at hfull
      refine map_of_inner (.map hkeys hvalues hdistinct) hw hsame fun e he w hw hleaves => ?_
      exact ih e he hw (fun leaf hleaf => hfull (leaf.below e.1) (below_mem_leavesOf he hleaf)) hleaves
    · rw [eq_of_same_leaves hmap fun leaf => (hsame leaf).symm]
      exact .refl _
  | _ =>
    rw [eq_of_same_leaves rfl hsame]
    exact .refl _

/-- Mappings of plain data with the same leaves differ only in the order of entries. -/
lemma of_leavesOf (hentries : Plain (.map entries)) (hothers : Plain (.map others))
    (hfilled : IsFilled entries) (hsame : ∀ leaf, leaf ∈ leavesOf entries ↔ leaf ∈ leavesOf others) :
    Reordered (.map entries) (.map others) := by
  refine map_of_inner hentries hothers hsame fun e he w hw hleaves => ?_
  refine of_leaves (hentries.of_mem he) hw (fun leaf hleaf => ?_) hleaves
  exact hfilled.full (leaf.below e.1) (below_mem_leavesOf he hleaf)

end Reordered
end Metastore.Value
