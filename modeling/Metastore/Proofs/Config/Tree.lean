import Metastore.Config.Tree
import Metastore.Proofs.Action
import Metastore.Proofs.Value.Keyed

/-!
# Values at paths

What setting a value at a path does to the values at all paths: it succeeds where nothing but mappings
stands in the way, the value is then at its path, there are mappings on the way to it, and what stands
apart from it is as it was.
-/

namespace Metastore

/-- Whether neither of two paths begins with the other. -/
def Path.Apart (p q : Path) : Prop := ¬ p <+: q ∧ ¬ q <+: p

instance (p q : Path) : Decidable (p.Apart q) := inferInstanceAs (Decidable (_ ∧ _))

lemma Path.Apart.symm {p q : Path} (h : p.Apart q) : q.Apart p := ⟨h.2, h.1⟩

/-- Whether a mapping stands at a key, or null, or nothing. -/
def Mapping.SectionAt (entries : Mapping) (name : String) : Prop :=
  ∀ v, entries.getText? name = some v → v = .null ∨ ∃ inner : Mapping, v = .map inner

namespace Value

variable {v v' new : Value} {entries : Mapping} {key : String} {p q rest : Path}

/-- Whether nothing but a mapping stands at a path. -/
def IsOpenAt (v : Value) (path : Path) : Prop :=
  ∀ w, v.at? path = some w → ∃ entries : Mapping, w = .map entries

/-- The value that a path goes on from: what stands at a key, or else an empty mapping. -/
def child (entries : Mapping) (key : String) : Value := (entries.getText? key).getD (.map [])

lemma exists_eq_map (h : v.isMap = true) : ∃ entries : Mapping, v = .map entries := by
  cases v with
  | map entries => exact ⟨entries, rfl⟩
  | _ => cases h

@[simp] lemma at?_nil (v : Value) : v.at? [] = some v := by
  cases v <;> rfl

/-- Nothing stands below an empty mapping. -/
lemma isOpenAt_empty (path : Path) : (Value.map []).IsOpenAt path := by
  intro w hw
  cases path with
  | nil => exact ⟨[], (Option.some.inj hw).symm⟩
  | cons key rest => cases hw

lemma at?_map_cons (entries : Mapping) (key : String) (rest : Path) :
    (Value.map entries).at? (key :: rest) = (entries.getText? key).bind (·.at? rest) := by
  rw [at?]
  cases entries.getText? key <;> rfl

/-- Below a mapping that is missing, there is nothing. -/
lemma at?_child (hrest : rest ≠ []) (entries : Mapping) (key : String) :
    (child entries key).at? rest = (Value.map entries).at? (key :: rest) := by
  rw [child, at?_map_cons]
  cases entries.getText? key with
  | some w => rfl
  | none =>
    cases rest with
    | nil => exact absurd rfl hrest
    | cons next more => rfl

/-- Setting a value at a path sets it at the rest of the path, from what stands at the first key. -/
lemma insertAt_map_cons (entries : Mapping) (key : String) (rest : Path) (new : Value) :
    (Value.map entries).insertAt (key :: rest) new =
      ((child entries key).insertAt rest new).map fun w => .map (entries.setText key w) := by
  cases rest with
  | nil =>
    have hnil : (child entries key).insertAt [] new = .ok new := by
      cases child entries key <;> rfl
    rw [hnil]
    rfl
  | cons next more =>
    rw [insertAt, child]
    cases ((entries.getText? key).getD (.map [])).insertAt (next :: more) new <;> rfl

lemma insertAt_cons_eq_ok (h : v.insertAt (key :: rest) new = .ok v') :
    ∃ (entries : Mapping) (w : Value), v = .map entries ∧ (child entries key).insertAt rest new = .ok w ∧
      v' = .map (entries.setText key w) := by
  cases v with
  | map entries =>
    rw [insertAt_map_cons] at h
    obtain ⟨w, hw, rfl⟩ := except_map_eq_ok.mp h
    exact ⟨entries, w, rfl, hw, rfl⟩
  | _ => cases rest <;> cases h

/-- What is open below a key is open from what stands there. -/
lemma isOpenAt_child (h : (Value.map entries).IsOpenAt (key :: rest)) :
    (child entries key).IsOpenAt rest := by
  intro w hw
  by_cases hrest : rest = []
  · subst hrest
    rw [IsOpenAt, at?_map_cons] at h
    rw [at?_nil, child] at hw
    cases hkey : entries.getText? key with
    | none =>
      rw [hkey] at hw
      exact ⟨[], (Option.some.inj hw).symm⟩
    | some found =>
      rw [hkey] at h hw
      exact h w (by simpa using hw)
  · exact h w (by rwa [← at?_child hrest])

lemma isOpenAt_of_child (h : (child entries key).IsOpenAt rest) :
    (Value.map entries).IsOpenAt (key :: rest) := by
  intro w hw
  rw [at?_map_cons] at hw
  obtain ⟨found, hfound, hrest⟩ := Option.bind_eq_some_iff.mp hw
  rw [child, hfound] at h
  exact h w hrest

/-- A value can be set where nothing but mappings stands in the way. -/
lemma exists_insertAt (hopen : ∀ q, q <+: p → q ≠ p → v.IsOpenAt q) (new : Value) :
    ∃ v', v.insertAt p new = .ok v' := by
  induction p generalizing v with
  | nil => exact ⟨new, by cases v <;> rfl⟩
  | cons key rest ih =>
    obtain ⟨entries, rfl⟩ := hopen [] List.nil_prefix (by simp) v (at?_nil v)
    have hchild : ∀ q, q <+: rest → q ≠ rest → (child entries key).IsOpenAt q := by
      intro q hbegins hne
      have hmore : key :: q <+: key :: rest := List.cons_prefix_cons.mpr ⟨rfl, hbegins⟩
      exact isOpenAt_child (hopen (key :: q) hmore (by simpa using hne))
    obtain ⟨w, hw⟩ := ih hchild
    exact ⟨.map (Mapping.setText entries key w), by rw [insertAt_map_cons, hw]; rfl⟩

/-- Nothing but mappings stands in the way to where a value was set. -/
lemma isOpenAt_of_insertAt (h : v.insertAt p new = .ok v') (hbegins : q <+: p) (hne : q ≠ p) :
    v.IsOpenAt q := by
  induction p generalizing v v' q with
  | nil => exact absurd (List.prefix_nil.mp hbegins) hne
  | cons key rest ih =>
    obtain ⟨entries, w, rfl, hw, rfl⟩ := insertAt_cons_eq_ok h
    cases q with
    | nil => exact fun found hfound => ⟨entries, (Option.some.inj hfound).symm⟩
    | cons first more =>
      obtain ⟨rfl, hmore⟩ := List.cons_prefix_cons.mp hbegins
      exact isOpenAt_of_child (ih hw hmore (by simpa using hne))

/-- The value is at its path. -/
lemma at?_insertAt (h : v.insertAt p new = .ok v') : v'.at? p = some new := by
  induction p generalizing v v' with
  | nil =>
    obtain rfl : new = v' := by cases v <;> exact Except.ok.inj h
    exact at?_nil new
  | cons key rest ih =>
    obtain ⟨entries, w, -, hw, rfl⟩ := insertAt_cons_eq_ok h
    rw [at?_map_cons, Mapping.getText?_setText]
    exact ih hw

/-- There are mappings on the way to the value. -/
lemma at?_insertAt_of_prefix (h : v.insertAt p new = .ok v') (hbegins : q <+: p) (hne : q ≠ p) :
    ∃ entries : Mapping, v'.at? q = some (.map entries) := by
  induction p generalizing v v' q with
  | nil => exact absurd (List.prefix_nil.mp hbegins) hne
  | cons key rest ih =>
    obtain ⟨entries, w, -, hw, rfl⟩ := insertAt_cons_eq_ok h
    cases q with
    | nil => exact ⟨_, at?_nil _⟩
    | cons first more =>
      obtain ⟨rfl, hmore⟩ := List.cons_prefix_cons.mp hbegins
      rw [at?_map_cons, Mapping.getText?_setText]
      exact ih hw hmore (by simpa using hne)

/-- What stands apart from the value is as it was. -/
lemma at?_insertAt_of_apart (h : v.insertAt p new = .ok v') (hapart : p.Apart q) :
    v'.at? q = v.at? q := by
  induction p generalizing v v' q with
  | nil => exact absurd List.nil_prefix hapart.1
  | cons key rest ih =>
    obtain ⟨entries, w, rfl, hw, rfl⟩ := insertAt_cons_eq_ok h
    cases q with
    | nil => exact absurd List.nil_prefix hapart.2
    | cons first more =>
      rw [at?_map_cons]
      by_cases hkey : key = first
      · subst hkey
        have hrest : Path.Apart rest more :=
          ⟨fun hbegins => hapart.1 (List.cons_prefix_cons.mpr ⟨rfl, hbegins⟩),
            fun hbegins => hapart.2 (List.cons_prefix_cons.mpr ⟨rfl, hbegins⟩)⟩
        have hmore : more ≠ [] := by
          rintro rfl
          exact hrest.2 List.nil_prefix
        rw [Mapping.getText?_setText, ← at?_child hmore]
        exact ih hw hrest
      · rw [Mapping.getText?_setText_of_ne entries w hkey, at?_map_cons]

/-- A path that does not go through the value stays open. -/
lemma isOpenAt_insertAt (h : v.insertAt p new = .ok v') (hnot : ¬ p <+: q) (hopen : v.IsOpenAt q) :
    v'.IsOpenAt q := by
  intro w hw
  by_cases hbegins : q <+: p
  · have hne : q ≠ p := by
      rintro rfl
      exact hnot List.prefix_rfl
    obtain ⟨entries, hentries⟩ := at?_insertAt_of_prefix h hbegins hne
    exact ⟨entries, Option.some.inj (hw.symm.trans hentries)⟩
  · rw [at?_insertAt_of_apart h ⟨hnot, hbegins⟩] at hw
    exact hopen w hw

lemma Keyed.child (h : Keyed (.map entries)) (key : String) : Keyed (Value.child entries key) := by
  rw [Value.child]
  cases hkey : entries.getText? key with
  | none => exact .nil
  | some w => exact h.of_getText? hkey

/-- Setting a value gives no mapping a key twice. -/
lemma Keyed.insertAt (hv : Keyed v) (hnew : Keyed new) (h : v.insertAt p new = .ok v') : Keyed v' := by
  induction p generalizing v v' with
  | nil =>
    obtain rfl : new = v' := by cases v <;> exact Except.ok.inj h
    exact hnew
  | cons key rest ih =>
    obtain ⟨entries, w, rfl, hw, rfl⟩ := insertAt_cons_eq_ok h
    exact hv.set (.text key) (ih (hv.child key) hw)

end Value
end Metastore
