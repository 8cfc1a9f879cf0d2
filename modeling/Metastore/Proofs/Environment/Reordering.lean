import Metastore.Proofs.Environment.Leaves
import Metastore.Proofs.Json.Canonical

/-!
# Variables in another order

Whether the overrides can be set, and which of them stand in the end, depends on the order of those variables
only that clash: whose paths are the same, or one of which leads through the other. So the variables can come
in any order that leaves these as they are (`Environment.overrideTree_sameOutcome`), but not in any order at
all (`Environment.overrideTree_not_sameOutcome`).
-/

namespace Metastore

/-! ### Two members of a list in order -/

section Order

variable {α : Type} {l front back : List α} {a b : α}

/-- What comes after a member that occurs once. -/
lemma pair_sublist_iff (h : (front ++ a :: back).Nodup) : [a, b].Sublist (front ++ a :: back) ↔ b ∈ back := by
  induction front with
  | nil =>
    have hnot : a ∉ back := (List.nodup_cons.mp h).1
    rw [List.nil_append, List.cons_sublist_cons', List.singleton_sublist]
    refine ⟨fun hab => ?_, fun hb => .inr ⟨rfl, hb⟩⟩
    rcases hab with hab | ⟨-, hb⟩
    · exact absurd (hab.subset List.mem_cons_self) hnot
    · exact hb
  | cons c rest ih =>
    obtain ⟨hnot, hrest⟩ := List.nodup_cons.mp h
    rw [List.cons_append, List.cons_sublist_cons', ih hrest]
    refine or_iff_left ?_
    rintro ⟨rfl, -⟩
    exact hnot (by simp)

lemma pair_sublist_or (ha : a ∈ l) (hb : b ∈ l) (hne : a ≠ b) : [a, b].Sublist l ∨ [b, a].Sublist l := by
  obtain ⟨front, back, rfl⟩ := List.append_of_mem ha
  rcases List.mem_append.mp hb with hfront | hback
  · right
    exact (List.singleton_sublist.mpr hfront).append (List.singleton_sublist.mpr List.mem_cons_self)
  · left
    have hb' : b ∈ back := (List.mem_cons.mp hback).resolve_left hne.symm
    exact ((List.singleton_sublist.mpr hb').cons_cons a).trans (List.sublist_append_right _ _)

lemma pair_sublist_asymm (h : l.Nodup) (hab : [a, b].Sublist l) : ¬ [b, a].Sublist l := by
  obtain ⟨front, back, rfl⟩ := List.append_of_mem (hab.subset List.mem_cons_self)
  have hback := (pair_sublist_iff h).mp hab
  obtain ⟨middle, back, rfl⟩ := List.append_of_mem hback
  rw [← List.cons_append, ← List.append_assoc] at h ⊢
  rw [pair_sublist_iff h]
  intro ha
  exact (List.nodup_append.mp h).2.2 a (by simp) a (List.mem_cons_of_mem _ ha) rfl

end Order

namespace Value

variable {v v' new : Value} {p : Path}

/-- Setting plain data in plain data gives plain data. -/
lemma Plain.insertAt (hv : Plain v) (hnew : Plain new) (h : v.insertAt p new = .ok v') : Plain v' := by
  induction p generalizing v v' with
  | nil =>
    obtain rfl : new = v' := by cases v <;> exact Except.ok.inj h
    exact hnew
  | cons key rest ih =>
    obtain ⟨entries, w, rfl, hw, rfl⟩ := insertAt_cons_eq_ok h
    refine hv.setText key (ih ?_ hw)
    rw [child]
    cases hkey : entries.getText? key with
    | none => exact .map (by simp) (by simp) List.nodup_nil
    | some found => exact hv.of_mem (Mapping.mem_of_getText? hkey)

end Value

namespace Environment

open Value (leavesOf Plain)

variable {start : String} {env env' : Environment} {p : Path} {v : Value}

/-! ### Variables that clash -/

/-- Whether two variables clash: the path of one of them is that of the other or leads through it, and they do
not say the same. -/
def Clash (start : String) (a b : String × String) : Prop :=
  ∃ p v q w, Says start a p v ∧ Says start b q w ∧ ¬ p.Apart q ∧ (p, v) ≠ (q, w)

lemma Clash.symm {a b : String × String} (h : Clash start a b) : Clash start b a := by
  obtain ⟨p, v, q, w, hp, hq, hapart, hne⟩ := h
  exact ⟨q, w, p, v, hq, hp, mt Path.Apart.symm hapart, hne.symm⟩

instance (start : String) (a b : String × String) : Decidable (Clash start a b) :=
  decidable_of_iff (∃ o ∈ setBy start a, ∃ o' ∈ setBy start b, ¬ o.1.Apart o'.1 ∧ o ≠ o') <| by
    constructor
    · rintro ⟨⟨p, v⟩, hp, ⟨q, w⟩, hq, hclash⟩
      exact ⟨p, v, q, w, says_iff.mpr hp, says_iff.mpr hq, hclash⟩
    · rintro ⟨p, v, q, w, hp, hq, hclash⟩
      exact ⟨(p, v), says_iff.mp hp, (q, w), says_iff.mp hq, hclash⟩

/-- Whether variables that clash come in the same order in another environment. -/
def KeepsClashes (start : String) (env env' : Environment) : Prop :=
  env.Pairwise fun a b => Clash start a b → [a, b].Sublist env'

instance (start : String) (env env' : Environment) : Decidable (KeepsClashes start env env') :=
  inferInstanceAs (Decidable (List.Pairwise _ _))

lemma KeepsClashes.sublist {a b : String × String} (h : KeepsClashes start env env') (hclash : Clash start a b)
    (hab : [a, b].Sublist env) : [a, b].Sublist env' :=
  List.pairwise_iff_forall_sublist.mp h hab hclash

lemma KeepsClashes.symm (h : KeepsClashes start env env') (hnodup : env'.Nodup) (hperm : env.Perm env') :
    KeepsClashes start env' env := by
  refine List.pairwise_iff_forall_sublist.mpr fun {a b} hab hclash => ?_
  have hne : a ≠ b := by
    rintro rfl
    exact pair_sublist_asymm hnodup hab hab
  have ha : a ∈ env := hperm.mem_iff.mpr (hab.subset (by simp))
  have hb : b ∈ env := hperm.mem_iff.mpr (hab.subset (by simp))
  rcases pair_sublist_or ha hb hne with hkept | hswapped
  · exact hkept
  · exact absurd (h.sublist hclash.symm hswapped) (pair_sublist_asymm hnodup hab)

lemma noneInTheWay_of_keepsClashes (hkeeps : KeepsClashes start env' env)
    (h : NoneInTheWay (env.overrides start)) : NoneInTheWay (env'.overrides start) := by
  rw [NoneInTheWay, pairwise_overrides_iff, List.pairwise_iff_forall_sublist] at h ⊢
  intro a b hab p v q w hp hq hbegins
  by_contra hne
  have hclash : Clash start a b :=
    ⟨p, v, q, w, hp, hq, fun hapart => hapart.1 hbegins, fun hsame => hne (congrArg Prod.fst hsame)⟩
  exact hne (h (hkeeps.sublist hclash hab) p v q w hp hq hbegins)

/-- What stands in the end is what a variable says that no later one replaces by something else. -/
lemma mem_standing_overrides_iff (hnodup : env.Nodup) : (p, v) ∈ standing (env.overrides start) ↔
    ∃ a ∈ env, Says start a p v ∧
      ∀ b, [a, b].Sublist env → ∀ q w, Says start b q w → q <+: p → (q, w) = (p, v) := by
  rw [mem_standing, overrides_eq_filterMap]
  constructor
  · rintro ⟨front, back, heq, hback⟩
    obtain ⟨_, after, rfl, -, hafter⟩ := List.filterMap_eq_append_iff.mp heq
    obtain ⟨between, a, after, rfl, -, ha, rfl⟩ := List.filterMap_eq_cons_iff.mp hafter
    refine ⟨a, by simp, says_iff.mpr ha, fun b hab q w hb hbegins => hback (q, w) ?_ hbegins⟩
    rw [← List.append_assoc] at hnodup hab
    exact List.mem_filterMap.mpr ⟨b, (pair_sublist_iff hnodup).mp hab, says_iff.mp hb⟩
  · rintro ⟨a, ha, hsays, hlater⟩
    obtain ⟨before, after, rfl⟩ := List.append_of_mem ha
    refine ⟨before.filterMap (setBy start), after.filterMap (setBy start), ?_, ?_⟩
    · rw [List.filterMap_append, List.filterMap_cons_some (says_iff.mp hsays)]
    · rintro ⟨q, w⟩ hmem hbegins
      obtain ⟨b, hb, hsays'⟩ := List.mem_filterMap.mp hmem
      exact hlater b ((pair_sublist_iff hnodup).mpr hb) q w (says_iff.mpr hsays') hbegins

lemma mem_standing_of_keepsClashes (hkeeps : KeepsClashes start env' env) (hnodup : env.Nodup)
    (hperm : env.Perm env') (h : (p, v) ∈ standing (env.overrides start)) :
    (p, v) ∈ standing (env'.overrides start) := by
  obtain ⟨a, ha, hsays, hlater⟩ := (mem_standing_overrides_iff hnodup).mp h
  refine (mem_standing_overrides_iff (hperm.nodup_iff.mp hnodup)).mpr ⟨a, hperm.mem_iff.mp ha, hsays, ?_⟩
  intro b hab q w hb hbegins
  by_contra hne
  have hclash : Clash start a b := ⟨p, v, q, w, hsays, hb, fun hapart => hapart.2 hbegins, Ne.symm hne⟩
  exact hne (hlater b (hkeeps.sublist hclash hab) q w hb hbegins)

/-! ### Outcomes -/

/-- Whether two outcomes are the same: trees that differ at most in the order of entries, or failures. -/
inductive SameOutcome : Except Problem Value → Except Problem Value → Prop where
  | trees {v w : Value} (h : v.Reordered w) : SameOutcome (.ok v) (.ok w)
  | failures (problem other : Problem) : SameOutcome (.error problem) (.error other)

lemma plain_coerce (s : String) : Plain (coerce s) := by
  rcases coerce_cases s with ⟨b, h⟩ | ⟨t, h⟩
  · exact h ▸ .bool b
  · exact h ▸ .text t

lemma plain_insertAll {tree tree' : Value} {overrides : List (Path × Value)} (htree : Plain tree)
    (hvalues : ∀ o ∈ overrides, Plain o.2) (h : insertAll tree overrides = .ok tree') : Plain tree' := by
  induction overrides generalizing tree with
  | nil => exact Except.ok.inj h ▸ htree
  | cons first rest ih =>
    obtain ⟨hfirst, hrest⟩ := List.forall_mem_cons.mp hvalues
    obtain ⟨between, hset, h⟩ := insertAll_cons_eq_ok h
    exact ih (htree.insertAt hfirst hset) hrest h

lemma plain_overrideTree {tree : Value} (h : env.overrideTree start = .ok tree) : Plain tree := by
  have hempty : Plain (.map []) := .map (by simp) (by simp) List.nodup_nil
  refine plain_insertAll hempty (fun o ho => ?_) h
  obtain ⟨s, -, hvalue⟩ := mem_overrides.mp ho
  exact hvalue ▸ plain_coerce s

/-- Variables have the same outcome in another order in which those that clash come as before. -/
theorem overrideTree_sameOutcome (hnames : (env.map (·.1)).Nodup) (hperm : env.Perm env')
    (hkeeps : KeepsClashes start env env') :
    SameOutcome (env.overrideTree start) (env'.overrideTree start) := by
  have hnodup : env.Nodup := hnames.of_map
  have hnodup' : env'.Nodup := hperm.nodup_iff.mp hnodup
  have hback := hkeeps.symm hnodup' hperm
  cases h : env.overrideTree start with
  | ok tree =>
    have hnone := exists_overrideTree_iff.mp ⟨tree, h⟩
    obtain ⟨tree', h'⟩ := exists_overrideTree_iff.mpr (noneInTheWay_of_keepsClashes hback hnone)
    obtain ⟨entries, rfl, hfilled, hleaves⟩ := leavesOf_overrideTree h
    obtain ⟨entries', rfl, -, hleaves'⟩ := leavesOf_overrideTree h'
    rw [h']
    refine .trees (.of_leavesOf (plain_overrideTree h) (plain_overrideTree h') hfilled fun leaf => ?_)
    have hstanding (o : Path × Value) :
        o ∈ standing (env.overrides start) ↔ o ∈ standing (env'.overrides start) :=
      ⟨mem_standing_of_keepsClashes hback hnodup hperm, mem_standing_of_keepsClashes hkeeps hnodup' hperm.symm⟩
    simp only [hleaves.mem_iff, hleaves'.mem_iff, List.mem_map, hstanding]
  | error problem =>
    cases h' : env'.overrideTree start with
    | ok tree' =>
      have hnone := noneInTheWay_of_keepsClashes hkeeps (exists_overrideTree_iff.mp ⟨tree', h'⟩)
      obtain ⟨tree, htree⟩ := exists_overrideTree_iff.mpr hnone
      cases h.symm.trans htree
    | error other => exact .failures problem other

/-- The later of two variables for one path stays the later one, and the others go where they like. -/
theorem overrideTree_sameOutcome_swapped :
    let env : Environment := [("REMETA_A__X", "1"), ("REMETA_B__Y", "2"), ("HOME", "/"), ("REMETA_b__y", "3")]
    let env' : Environment := [("REMETA_B__Y", "2"), ("HOME", "/"), ("REMETA_b__y", "3"), ("REMETA_A__X", "1")]
    (env.map (·.1)).Nodup ∧ env.Perm env' ∧ KeepsClashes "REMETA_" env env' ∧
      env.overrideTree "REMETA_" =
        .ok (.map [(.text "a", .map [(.text "x", .text "1")]), (.text "b", .map [(.text "y", .text "3")])]) ∧
      SameOutcome (env.overrideTree "REMETA_") (env'.overrideTree "REMETA_") := by
  intro env env'
  have hnames : (env.map (·.1)).Nodup := by decide
  have hperm : env.Perm env' := by decide
  have hkeeps : KeepsClashes "REMETA_" env env' := by decide
  exact ⟨hnames, hperm, hkeeps, by rfl, overrideTree_sameOutcome hnames hperm hkeeps⟩

/-- Of two variables for one path the later one decides, and a variable whose path leads through another one
fails or is lost. -/
theorem overrideTree_not_sameOutcome :
    let onePath : Environment := [("REMETA_A", "1"), ("REMETA_a", "2")]
    let through : Environment := [("REMETA_A", "1"), ("REMETA_A__B", "2")]
    ((onePath.map (·.1)).Nodup ∧ onePath.Perm onePath.reverse ∧
        ¬ SameOutcome (overrideTree "REMETA_" onePath) (overrideTree "REMETA_" onePath.reverse)) ∧
      (through.map (·.1)).Nodup ∧ through.Perm through.reverse ∧
        ¬ SameOutcome (overrideTree "REMETA_" through) (overrideTree "REMETA_" through.reverse) := by
  intro onePath through
  refine ⟨⟨by decide, .swap _ _ _, fun hsame => ?_⟩, by decide, .swap _ _ _, fun hsame => ?_⟩
  · have htree : overrideTree "REMETA_" onePath = .ok (.map [(.text "a", .text "2")]) := by rfl
    have htree' : overrideTree "REMETA_" onePath.reverse = .ok (.map [(.text "a", .text "1")]) := by rfl
    rw [htree, htree'] at hsame
    cases hsame with
    | trees hreordered =>
      have htexts := Json.textOf_eq .canonical rfl hreordered (plain_overrideTree htree)
      rw [Json.textOf_map .canonical (by simp) (by simp [Plain.text]),
        Json.textOf_map .canonical (by simp) (by simp [Plain.text])] at htexts
      simp only [Json.Style.order, List.mergeSort_singleton, ite_self] at htexts
      exact absurd htexts (by decide)
  · have htree : overrideTree "REMETA_" through = .error .wrongType := by rfl
    have htree' : overrideTree "REMETA_" through.reverse = .ok (.map [(.text "a", .text "1")]) := by rfl
    rw [htree, htree'] at hsame
    cases hsame

end Environment
end Metastore
