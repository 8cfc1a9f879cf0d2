import Metastore.Client.Items
import Metastore.Proofs.Action
import Metastore.Proofs.Value.Mapping

/-!
# Items and their keys

An item is found by its table, its tenant and its identifier, and by nothing else, where the
attribute for the tenant is neither the one for the identifier nor the one for the source.
-/

namespace Metastore

lemma Value.isSameKey_text_eq_false {key : Value} {name : String} (h : key ≠ .text name) :
    key.isSameKey (.text name) = false :=
  Bool.eq_false_iff.mpr fun hsame => h (Mapping.eq_text_of_isSameKey hsame)

namespace Item

/-- An attribute for the tenant that stands beside the other attributes. -/
structure IsHash (hash : Value) : Prop where
  isKey : hash.isKey = true
  ne_range : hash ≠ .text rangeKey
  ne_source : hash ≠ .text sourceAttribute

/-- The key of the items of a tenant with an identifier. -/
def keyed (hash tenant id : Value) : Mapping :=
  [(hash, textAttribute tenant), (.text rangeKey, textAttribute id)]

/-- The item of a tenant with an identifier and a source. -/
def full (hash tenant id : Value) (source : String) : Mapping :=
  keyed hash tenant id ++ [(.text sourceAttribute, textAttribute (.text source))]

/-- The tenant under which items are kept. -/
def keptFor (tenant : Value) : Value := tenant.orElse (.text defaultTenant)

variable {hash field tenant tenant' id id' table document : Value} {source : String} {items : Items}

lemma key_eq (hkey : (hashKey field).isKey = true) (hrange : hashKey field ≠ .text rangeKey)
    (id tenant : Value) :
    key field id tenant = .ok (keyed (hashKey field) (keptFor tenant) id) := by
  have hset :
      Value.setEntry [] (hashKey field) (textAttribute (tenant.orElse (.text defaultTenant))) =
        .ok [(hashKey field, textAttribute (keptFor tenant))] := by
    rw [Value.setEntry, if_pos hkey]
    rfl
  rw [key, hset]
  show Except.ok _ = _
  rw [Mapping.setText, Mapping.set, Value.isSameKey_text_eq_false hrange]
  rfl

lemma ofDocument_eq (hhash : IsHash (hashKey field)) (id document tenant : Value) :
    ofDocument field id document tenant =
      (Json.encode .canonical document).map (full (hashKey field) (keptFor tenant) id) := by
  rw [ofDocument, key_eq hhash.isKey hhash.ne_range]
  cases Json.encode .canonical document with
  | error problem => rfl
  | ok source =>
    show Except.ok _ = Except.ok _
    rw [Mapping.setText, keyed, Mapping.set, Value.isSameKey_text_eq_false hhash.ne_source]
    rfl

/-! ### Keys of items -/

lemma keyOf_full (hhash : IsHash hash) (tenant id : Value) (source : String) :
    Items.keyOf (full hash tenant id source) = keyed hash tenant id := by
  have hrange : (Value.text rangeKey).isSameKey (.text sourceAttribute) = false := by decide
  simp [Items.keyOf, Mapping.erase, full, keyed, Value.isSameKey_text_eq_false hhash.ne_source,
    hrange]

lemma textAttribute_beq (v w : Value) : (textAttribute v == textAttribute w) = decide (w = v) := by
  rw [Bool.eq_iff_iff, beq_iff_eq, decide_eq_true_iff]
  constructor
  · intro h
    simpa [textAttribute, eq_comm] using h
  · rintro rfl
    rfl

/-- Keys with the same attributes are for the same tenant and identifier. -/
lemma sameKey_keyed (hhash : IsHash hash) (tenant id tenant' id' : Value) :
    Items.sameKey (keyed hash tenant id) (keyed hash tenant' id') =
      decide (tenant = tenant' ∧ id = id') := by
  have hrange := Value.isSameKey_text_eq_false hhash.ne_range
  simp [Items.sameKey, keyed, Value.isSameKey_self hhash.isKey, hrange, textAttribute_beq]

/-! ### Tables of items -/

/-- Whether all items have the attributes for the tenant, the identifier and the source. -/
def AllFull (hash : Value) (items : Items) : Prop :=
  ∀ entry ∈ items, ∃ tenant id source, entry.2 = full hash tenant id source

lemma AllFull.nil : AllFull hash [] := by
  rintro entry ⟨⟩

lemma get?_cons (hhash : IsHash hash) (table tenant id : Value) (source : String) (items : Items)
    (table' tenant' id' : Value) :
    Items.get? ((table, full hash tenant id source) :: items) table' (keyed hash tenant' id') =
      if table = table' ∧ tenant = tenant' ∧ id = id' then some (full hash tenant id source)
      else Items.get? items table' (keyed hash tenant' id') := by
  simp only [Items.get?, List.find?_cons, keyOf_full hhash, sameKey_keyed hhash]
  by_cases h : table = table' ∧ tenant = tenant' ∧ id = id'
  · simp [h]
  · have hfalse : (table == table' && decide (tenant = tenant' ∧ id = id')) = false := by
      simpa using h
    rw [hfalse, if_neg h]

lemma put_cons (hhash : IsHash hash) (table' tenant' id' : Value) (source' : String) (items : Items)
    (table tenant id : Value) (source : String) :
    Items.put ((table', full hash tenant' id' source') :: items) table (full hash tenant id source) =
      if table' = table ∧ tenant' = tenant ∧ id' = id
      then (table, full hash tenant id source) :: items
      else (table', full hash tenant' id' source') ::
        items.put table (full hash tenant id source) := by
  rw [Items.put, keyOf_full hhash, keyOf_full hhash, sameKey_keyed hhash]
  simp

/-- What holds of every item still does after one more is kept of which it holds. -/
lemma forall_put (P : Mapping → Prop) (h : ∀ entry ∈ items, P entry.2) (table : Value)
    {item : Mapping} (hitem : P item) : ∀ entry ∈ items.put table item, P entry.2 := by
  induction items with
  | nil =>
    intro entry hentry
    obtain rfl := List.mem_singleton.mp hentry
    exact hitem
  | cons first rest ih =>
    have hrest : ∀ entry ∈ rest, P entry.2 :=
      fun entry hentry => h entry (List.mem_cons_of_mem _ hentry)
    rw [Items.put]
    split
    · intro entry hentry
      rcases List.mem_cons.mp hentry with rfl | hmem
      · exact hitem
      · exact hrest entry hmem
    · intro entry hentry
      rcases List.mem_cons.mp hentry with rfl | hmem
      · exact h _ List.mem_cons_self
      · exact ih hrest entry hmem

lemma AllFull.put (h : AllFull hash items) (table tenant id : Value) (source : String) :
    AllFull hash (items.put table (full hash tenant id source)) :=
  forall_put (fun item => ∃ tenant id source, item = full hash tenant id source) h table
    ⟨tenant, id, source, rfl⟩

/-- Keeping an item changes what is found by its own key and nothing else. -/
lemma get?_put (hhash : IsHash hash) (h : AllFull hash items) (table tenant id : Value)
    (source : String) (table' tenant' id' : Value) :
    (items.put table (full hash tenant id source)).get? table' (keyed hash tenant' id') =
      if table = table' ∧ tenant = tenant' ∧ id = id' then some (full hash tenant id source)
      else items.get? table' (keyed hash tenant' id') := by
  induction items with
  | nil => exact get?_cons hhash table tenant id source [] table' tenant' id'
  | cons first rest ih =>
    obtain ⟨table₀, item⟩ := first
    obtain ⟨tenant₀, id₀, source₀, rfl⟩ := h (table₀, item) List.mem_cons_self
    have hrest : AllFull hash rest := fun entry hentry => h entry (List.mem_cons_of_mem _ hentry)
    rw [put_cons hhash]
    split
    · next hsame =>
      obtain ⟨rfl, rfl, rfl⟩ := hsame
      rw [get?_cons hhash, get?_cons hhash]
      split <;> rfl
    · next hother =>
      rw [get?_cons hhash, ih hrest, get?_cons hhash]
      by_cases hat : table = table' ∧ tenant = tenant' ∧ id = id'
      · obtain ⟨rfl, rfl, rfl⟩ := hat
        rw [if_neg hother, if_pos ⟨rfl, rfl, rfl⟩, if_pos ⟨rfl, rfl, rfl⟩]
      · rw [if_neg hat, if_neg hat]

/-! ### Reading items -/

/-- The reply to a request for an item. -/
def replyTo (items : Items) (table : Value) (key : Mapping) : Value :=
  (Requests.respond (TableRequest.getItem table key) items).1

lemma documentOf_missing {key : Mapping} (h : items.get? table key = none) :
    documentOf (replyTo items table key) = .ok .null := by
  simp only [replyTo, Requests.respond, TableRequest.respond, h]
  rfl

/-- The document of an item is read from its source, whatever its other attributes are. -/
lemma documentOf_item {item : Mapping}
    (hsource : item.getText? sourceAttribute = some (textAttribute (.text source))) :
    documentOf (.map [(.text "Item", .map item)]) = Json.decode source := by
  have htruthy : (Value.map item).truthy = true := by
    cases item with
    | nil => cases hsource
    | cons e rest => rfl
  have hitem : (Value.map item).item sourceAttribute = .ok (textAttribute (.text source)) := by
    simp [Value.item, hsource]
  show (if !(Value.map item).truthy then _ else _) = _
  rw [htruthy]
  show ((Value.map item).item sourceAttribute >>= _) = _
  rw [hitem]
  rfl

lemma documentOf_found {key item : Mapping} (h : items.get? table key = some item)
    (hsource : item.getText? sourceAttribute = some (textAttribute (.text source))) :
    documentOf (replyTo items table key) = Json.decode source := by
  simp only [replyTo, Requests.respond, TableRequest.respond, h]
  exact documentOf_item hsource

lemma documentOf_full {key : Mapping} (hhash : IsHash hash)
    (h : items.get? table key = some (full hash tenant id source)) :
    documentOf (replyTo items table key) = Json.decode source := by
  have hrange : (Value.text rangeKey).isSameKey (.text sourceAttribute) = false := by decide
  apply documentOf_found h
  simp [Mapping.getText?, full, keyed, Value.isSameKey_text_eq_false hhash.ne_source, hrange]

lemma getText?_ofDocument {item : Mapping} (h : ofDocument field id document tenant = .ok item)
    (hencode : Json.encode .canonical document = .ok source) :
    item.getText? sourceAttribute = some (textAttribute (.text source)) := by
  obtain ⟨key, -, hsource⟩ := except_bind_eq_ok.mp h
  rw [hencode] at hsource
  obtain rfl := Except.ok.inj hsource
  exact Mapping.getText?_setText key sourceAttribute _

end Item
end Metastore
