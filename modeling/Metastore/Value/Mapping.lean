import Metastore.Value.Equality

/-!
# Mappings

Reading and changing the entries of a mapping. A key occurs at most once; setting an existing key keeps its
place and its spelling, setting a new one adds it at the end.
-/

namespace Metastore.Mapping

/-- Whether a key has an entry. -/
def has (entries : Mapping) (key : Value) : Bool := (entries.get? key).isSome

/-- Sets the value at a key. -/
def set : Mapping → (key value : Value) → Mapping
  | [], key, value => [(key, value)]
  | (k, v) :: rest, key, value =>
    if k.isSameKey key then (k, value) :: rest else (k, v) :: set rest key value

/-- Removes the entry at a key. -/
def erase (entries : Mapping) (key : Value) : Mapping :=
  entries.filter fun e => !e.1.isSameKey key

/-- Sets several entries, from the first to the last. -/
def setAll (entries : Mapping) (more : List (Value × Value)) : Mapping :=
  more.foldl (fun m e => set m e.1 e.2) entries

/-- The mapping of a list of pairs; of two pairs with the same key the later one gives the value. -/
def ofPairs (pairs : List (Value × Value)) : Mapping := setAll [] pairs

/-- The value at a text key. -/
def getText? (entries : Mapping) (name : String) : Option Value := entries.get? (.text name)

/-- The value at a text key, or null. -/
def getText (entries : Mapping) (name : String) : Value := entries.get (.text name)

/-- Sets the value at a text key. -/
def setText (entries : Mapping) (name : String) (value : Value) : Mapping := set entries (.text name) value

@[simp] theorem get?_nil (key : Value) : get? [] key = none := rfl

@[simp] theorem get?_cons (k v : Value) (rest : Mapping) (key : Value) :
    get? ((k, v) :: rest) key = if k.isSameKey key then some v else get? rest key := by
  simp only [get?, List.find?_cons]
  split <;> simp_all

/-- Reading back the text key that was set. -/
@[simp] theorem getText?_setText (m : Mapping) (name : String) (v : Value) :
    (m.setText name v).getText? name = some v := by
  induction m with
  | nil => simp [setText, set, getText?]
  | cons e rest ih =>
    obtain ⟨k, w⟩ := e
    simp only [setText, getText?, set] at ih ⊢
    by_cases h : k.isSameKey (.text name) <;> simp [h, ih]

/-- Whether a key that names the same entry as a text is that text. -/
theorem eq_text_of_isSameKey {k : Value} {name : String} (h : k.isSameKey (.text name) = true) :
    k = .text name := by
  cases k <;> simp_all [Value.isSameKey, Value.sameNumber, Value.asInt?]

/-- Setting a text key leaves the others alone. -/
theorem getText?_setText_of_ne (m : Mapping) {name other : String} (v : Value) (h : name ≠ other) :
    (m.setText name v).getText? other = m.getText? other := by
  induction m with
  | nil => simp [setText, set, getText?, h]
  | cons e rest ih =>
    obtain ⟨k, w⟩ := e
    simp only [setText, getText?, set] at ih ⊢
    by_cases hk : k.isSameKey (.text name)
    · have := eq_text_of_isSameKey hk
      subst this
      simp [h]
    · simp [hk, ih]

end Metastore.Mapping
