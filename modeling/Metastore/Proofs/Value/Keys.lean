import Metastore.Proofs.Double
import Metastore.Proofs.Value.Keyed

/-!
# Keys that name the same entry

Numbers and truth values name the same entry if they have the same value, everything else only if it is the
same. So each key has a form, and keys name the same entry exactly if they have the same form
(`Value.isSameKey_iff`). What is found at a key after another one was set follows from that
(`Mapping.get?_set`).
-/

namespace Metastore

namespace Value

variable {a b c : Value} {x y : Double}

/-- The form of a number: an integer if it is one. -/
def numberForm (x : Double) : Value := x.toInt?.elim (.float x) .int

/-- The form of a key, by which it is compared with others. Lists and mappings have none. -/
def keyForm? : Value → Option Value
  | .bool b => some (.int (if b then 1 else 0))
  | .float x => some (numberForm x)
  | .list _ | .entry _ _ | .map _ => none
  | v => some v

lemma numberForm_cases (x : Double) : (∃ n, numberForm x = .int n) ∨ numberForm x = .float x := by
  rw [numberForm]
  cases x.toInt? with
  | none => exact .inr rfl
  | some n => exact .inl ⟨n, rfl⟩

lemma numberForm_eq_int {n : Int} : numberForm x = .int n ↔ x.isInt n = true := by
  rw [numberForm, Double.isInt, beq_iff_eq]
  cases x.toInt? <;> simp

lemma same_iff : x.same y = true ↔ x.isNaN = false ∧ y.isNaN = false ∧ (x = y ∨ x.isZero ∧ y.isZero) := by
  simp [Double.same, and_assoc]

lemma isNaN_of_isZero (h : x.isZero = true) : x.isNaN = false := by
  have hfinite := (Double.isZero_iff.mp h).1
  rw [Double.isFinite, bne_iff_ne] at hfinite
  rw [Double.isNaN, beq_eq_false_iff_ne.mpr hfinite, Bool.false_and]

/-- Numbers have the same form if they are the same, or both zero. -/
lemma numberForm_eq_iff : numberForm x = numberForm y ↔ x = y ∨ x.same y = true := by
  constructor
  · intro h
    rcases numberForm_cases x with ⟨n, hx⟩ | hx
    · have hy := h.symm.trans hx
      rw [numberForm_eq_int, Double.isInt, beq_iff_eq] at hx hy
      rcases Double.eq_or_isZero_of_toInt? hx hy with heq | ⟨hx, hy⟩
      · exact .inl heq
      · exact .inr (same_iff.mpr ⟨isNaN_of_isZero hx, isNaN_of_isZero hy, .inr ⟨hx, hy⟩⟩)
    · rcases numberForm_cases y with ⟨n, hy⟩ | hy
      · simp [h.symm.trans hx] at hy
      · exact .inl (by simpa [hx, hy] using h)
  · rintro (rfl | hsame)
    · rfl
    · obtain ⟨-, -, rfl | ⟨hx, hy⟩⟩ := same_iff.mp hsame
      · rfl
      · rw [numberForm, numberForm, Double.toInt?_of_isZero hx, Double.toInt?_of_isZero hy]
        rfl

lemma isSameKey_number_iff {m : Int} (ha : a.asInt? = some m) (hform : a.keyForm? = some (.int m)) :
    a.isSameKey (.float y) = true ↔ a.keyForm?.isSome ∧ a.keyForm? = (Value.float y).keyForm? := by
  have hsame : a.isSameKey (.float y) = y.isInt m := by
    cases a <;> simp_all [isSameKey, sameNumber, asInt?]
  rw [hsame, hform, keyForm?, ← numberForm_eq_int]
  simp [eq_comm]

/-- Keys name the same entry exactly if they have the same form. -/
lemma isSameKey_iff : a.isSameKey b = true ↔ a.keyForm?.isSome ∧ a.keyForm? = b.keyForm? := by
  cases a with
  | float x =>
    cases b with
    | float y => simp [isSameKey, keyForm?, numberForm_eq_iff]
    | bool y => simp [isSameKey, sameNumber, asInt?, keyForm?, numberForm_eq_int]
    | int y => simp [isSameKey, sameNumber, asInt?, keyForm?, numberForm_eq_int]
    | _ => rcases numberForm_cases x with ⟨n, hx⟩ | hx <;> simp [isSameKey, sameNumber, asInt?, keyForm?, hx]
  | bool x =>
    cases b with
    | float y => exact isSameKey_number_iff rfl rfl
    | _ => simp [isSameKey, sameNumber, asInt?, keyForm?]
  | int x =>
    cases b with
    | float y => exact isSameKey_number_iff rfl rfl
    | _ => simp [isSameKey, sameNumber, asInt?, keyForm?]
  | _ =>
    cases b with
    | float y =>
      rcases numberForm_cases y with ⟨n, hy⟩ | hy <;> simp [isSameKey, sameNumber, asInt?, keyForm?, hy]
    | _ => simp [isSameKey, sameNumber, asInt?, keyForm?]

lemma isSameKey_comm (a b : Value) : a.isSameKey b = b.isSameKey a := by
  have hsymm {a b : Value} (h : a.isSameKey b = true) : b.isSameKey a = true := by
    obtain ⟨hform, heq⟩ := isSameKey_iff.mp h
    exact isSameKey_iff.mpr ⟨heq ▸ hform, heq.symm⟩
  exact Bool.eq_iff_iff.mpr ⟨hsymm, hsymm⟩

/-- Keys that name the same entry are told apart from others alike. -/
lemma isSameKey_congr (h : a.isSameKey b = true) (c : Value) : a.isSameKey c = b.isSameKey c := by
  obtain ⟨-, heq⟩ := isSameKey_iff.mp h
  rw [Bool.eq_iff_iff, isSameKey_iff, isSameKey_iff, heq]

end Value

namespace Mapping

variable {m : Mapping} {key other value : Value}

/-- The same is found at keys that name the same entry. -/
lemma get?_congr (h : key.isSameKey other = true) (m : Mapping) : m.get? key = m.get? other := by
  induction m with
  | nil => rfl
  | cons first rest ih =>
    obtain ⟨k, v⟩ := first
    have hk : k.isSameKey key = k.isSameKey other := by
      rw [Value.isSameKey_comm k, Value.isSameKey_comm k, Value.isSameKey_congr h]
    rw [get?_cons, get?_cons, hk, ih]

/-- What is found at a key after one was set. -/
lemma get?_set (m : Mapping) (key value other : Value) :
    (m.set key value).get? other = if key.isSameKey other then some value else m.get? other := by
  induction m with
  | nil => rw [set, get?_cons]
  | cons first rest ih =>
    obtain ⟨k, v⟩ := first
    rw [set]
    by_cases hk : k.isSameKey key = true
    · rw [if_pos hk, get?_cons, get?_cons, Value.isSameKey_congr hk]
      split <;> rfl
    · rw [if_neg hk, get?_cons, get?_cons, ih]
      by_cases hother : k.isSameKey other = true
      · have hkey : key.isSameKey other = false := by
          rw [Value.isSameKey_comm, ← Value.isSameKey_congr hother]
          exact Bool.eq_false_iff.mpr hk
        rw [if_pos hother, if_pos hother, hkey, if_neg Bool.false_ne_true]
      · rw [if_neg hother, if_neg hother]

/-- A key that is set to what it holds leaves everything as it was. -/
lemma set_of_get? (h : m.get? key = some value) : m.set key value = m := by
  induction m with
  | nil => cases h
  | cons first rest ih =>
    obtain ⟨k, v⟩ := first
    rw [get?_cons] at h
    rw [set]
    split at h
    · next hk => rw [if_pos hk, Option.some.inj h]
    · next hk => rw [if_neg hk, ih h]

/-- A key that comes first does not come again. -/
lemma Distinct.get?_rest {k v : Value} {rest : Mapping} (h : Distinct ((k, v) :: rest))
    (hsame : k.isSameKey key = true) : rest.get? key = none := by
  rw [get?, Option.map_eq_none_iff, List.find?_eq_none]
  intro e he hfound
  have hne := (List.pairwise_cons.mp h).1 e he
  rw [Value.isSameKey_congr hsame, Value.isSameKey_comm, hfound] at hne
  cases hne

lemma exists_mem_of_get? (h : m.get? key = some value) :
    ∃ e ∈ m, e.1.isSameKey key = true ∧ e.2 = value := by
  obtain ⟨e, hfind, rfl⟩ := Option.map_eq_some_iff.mp h
  exact ⟨e, List.mem_of_find?_eq_some hfind, (List.find?_some hfind :), rfl⟩

end Mapping
end Metastore
