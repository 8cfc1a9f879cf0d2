import Metastore.Proofs.Value.Plain

/-!
# Values with their entries reordered

Two values differ only in the order of entries if one is got from the other by permuting the entries
of mappings, at any depth. A value and the value with sorted entries differ only in this.
-/

namespace Metastore.Value

/-- Whether two values differ at most in the order of the entries of mappings, at any depth. -/
inductive Reordered : Value → Value → Prop where
  | refl (v : Value) : Reordered v v
  | trans {u v w : Value} (huv : Reordered u v) (hvw : Reordered v w) : Reordered u w
  | perm {entries others : Mapping} (h : List.Perm entries others) :
      Reordered (.map entries) (.map others)
  | item {v w : Value} (before after : List Value) (h : Reordered v w) :
      Reordered (.list (before ++ v :: after)) (.list (before ++ w :: after))
  | entry {v w : Value} (before : Mapping) (key : Value) (after : Mapping) (h : Reordered v w) :
      Reordered (.map (before ++ (key, v) :: after)) (.map (before ++ (key, w) :: after))

namespace Reordered

variable {v w : Value}

lemma symm (h : Reordered v w) : Reordered w v := by
  induction h with
  | refl v => exact .refl v
  | trans huv hvw ihuv ihvw => exact ihvw.trans ihuv
  | perm h => exact .perm h.symm
  | item before after h ih => exact ih.item before after
  | entry before key after h ih => exact ih.entry before key after

/-- Values that differ from plain data in the order of entries are plain data. -/
lemma plain (h : Reordered v w) (hv : Plain v) : Plain w := by
  induction h with
  | refl v => exact hv
  | trans huv hvw ihuv ihvw => exact ihvw (ihuv hv)
  | perm h =>
    cases hv with
    | map hkeys hvalues hdistinct =>
      refine .map ?_ ?_ ?_
      · intro e he
        exact hkeys e (h.mem_iff.mpr he)
      · intro e he
        exact hvalues e (h.mem_iff.mpr he)
      · exact (h.map (·.1)).nodup_iff.mp hdistinct
  | item before after h ih =>
    cases hv with
    | list hitems =>
      rw [List.forall_mem_append, List.forall_mem_cons] at hitems
      obtain ⟨hbefore, hv, hafter⟩ := hitems
      apply Plain.list
      rw [List.forall_mem_append, List.forall_mem_cons]
      exact ⟨hbefore, ih hv, hafter⟩
  | entry before key after h ih =>
    cases hv with
    | map hkeys hvalues hdistinct =>
      rw [List.forall_mem_append, List.forall_mem_cons] at hkeys hvalues
      obtain ⟨hbefore, hv, hafter⟩ := hvalues
      refine .map ?_ ?_ ?_
      · rw [List.forall_mem_append, List.forall_mem_cons]
        exact hkeys
      · rw [List.forall_mem_append, List.forall_mem_cons]
        exact ⟨hbefore, ih hv, hafter⟩
      · simpa using hdistinct

/-! ### Sorted values -/

lemma list_of_forall {f : Value → Value} {items : List Value}
    (h : ∀ v ∈ items, Reordered v (f v)) (before : List Value) :
    Reordered (.list (before ++ items)) (.list (before ++ items.map f)) := by
  induction items generalizing before with
  | nil => exact .refl _
  | cons v rest ih =>
    have hfirst : Reordered (.list (before ++ v :: rest)) (.list (before ++ f v :: rest)) :=
      (h v List.mem_cons_self).item before rest
    have hrest := ih (fun u hu => h u (List.mem_cons_of_mem _ hu)) (before ++ [f v])
    rw [List.append_assoc, List.append_assoc] at hrest
    exact hfirst.trans hrest

lemma map_of_forall {f : Value × Value → Value} {entries : Mapping}
    (h : ∀ e ∈ entries, Reordered e.2 (f e)) (before : Mapping) :
    Reordered (.map (before ++ entries)) (.map (before ++ entries.map fun e => (e.1, f e))) := by
  induction entries generalizing before with
  | nil => exact .refl _
  | cons e rest ih =>
    obtain ⟨key, v⟩ := e
    have hfirst : Reordered (.map (before ++ (key, v) :: rest))
        (.map (before ++ (key, f (key, v)) :: rest)) :=
      (h (key, v) List.mem_cons_self).entry before key rest
    have hrest := ih (fun u hu => h u (List.mem_cons_of_mem _ hu)) (before ++ [(key, f (key, v))])
    rw [List.append_assoc, List.append_assoc] at hrest
    exact hfirst.trans hrest

/-- Mappings with the same texts as keys differ in the order of entries if their values do. -/
lemma map_of_keys {entries others : Mapping} (hentries : entries.IsNamed) (hothers : others.IsNamed)
    (h : ∀ e ∈ entries, ∃ w, (e.1, w) ∈ others ∧ Reordered e.2 w)
    (hback : ∀ e ∈ others, ∃ v, (e.1, v) ∈ entries) : Reordered (.map entries) (.map others) := by
  have hget {key w : Value} (hmem : (key, w) ∈ others) : others.get key = w := by
    rw [Mapping.get, Mapping.get?_of_mem hothers.texts hothers.distinct hmem, Option.getD_some]
  have hperm : (entries.map fun e => (e.1, others.get e.1)).Perm others := by
    refine (List.perm_ext_iff_of_nodup ?_ hothers.distinct.of_map).mpr fun e => ?_
    · refine List.Nodup.of_map (·.1) ?_
      rw [List.map_map]
      exact hentries.distinct
    · rw [List.mem_map]
      constructor
      · rintro ⟨e, he, rfl⟩
        obtain ⟨w, hw, -⟩ := h e he
        rwa [hget hw]
      · intro he
        obtain ⟨v, hv⟩ := hback e he
        exact ⟨(e.1, v), hv, by rw [hget he]⟩
  refine (map_of_forall (f := fun e => others.get e.1) (fun e he => ?_) []).trans (.perm hperm)
  obtain ⟨w, hw, hreordered⟩ := h e he
  rwa [hget hw]

lemma sorted (hv : Plain v) : Reordered v v.sorted := by
  induction hv with
  | list hitems ih =>
    rw [Value.sorted, sortedItems_eq_map]
    exact list_of_forall ih []
  | @map entries hkeys hvalues hdistinct ih =>
    have hperm := List.mergeSort_perm entries keyLe
    rw [sorted_map]
    apply (perm hperm.symm).trans
    apply map_of_forall _ []
    intro e he
    exact ih e (hperm.mem_iff.mp he)
  | _ => exact .refl _

end Reordered
end Metastore.Value
