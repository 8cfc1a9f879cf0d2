import Metastore.Proofs.Client.SearchScope
import Metastore.Proofs.Client.Table
import Metastore.Proofs.Json.RoundTrip

/-!
# Reading one's own writes

On a table that holds whatever it may, a document that was just put is what is got for the same
table, identifier and tenant, also where the field for the tenant is the attribute of the
identifier. The one field with which it is never found is the attribute of the source
(`own_write_read_back`).
-/

namespace Metastore

open Services (TableHolds tableAccess)

variable {m : Mapping} {name : String}

/-! ### Items -/

namespace Items

variable {items : Items} {a b item key : Mapping} {table : Value}

lemma sameKey_self (h : m.IsNamed) : sameKey m m = true := by
  rw [sameKey, beq_self_eq_true, Bool.true_and, List.all_eq_true]
  rintro ⟨k, v⟩ hmem
  dsimp only
  rw [Mapping.get?_of_mem h.texts h.distinct hmem, beq_self_eq_true]

/-- Of two mappings with the same attributes, the first has every attribute that the second has. -/
lemma mem_of_sameKey (ha : a.IsNamed) (h : sameKey a b = true) {e : Value × Value} (he : e ∈ b) :
    ∃ other ∈ a, other.1 = e.1 := by
  rw [sameKey, Bool.and_eq_true, beq_iff_eq, List.all_eq_true] at h
  obtain ⟨hlength, hall⟩ := h
  have hsubset : a.map (·.1) ⊆ b.map (·.1) := by
    intro k hk
    obtain ⟨mine, hmine, rfl⟩ := List.mem_map.mp hk
    obtain ⟨name, hname⟩ := ha.texts mine hmine
    have hget : (b.get? (.text name)).isSome := by
      have hsame := hall mine hmine
      dsimp only at hsame
      rw [← hname, beq_iff_eq.mp hsame, Option.isSome_some]
    obtain ⟨found, hfound, heq⟩ := (Mapping.isSome_get?_text b name).mp hget
    rw [hname, ← heq]
    exact List.mem_map_of_mem hfound
  have hperm : (a.map (·.1)).Perm (b.map (·.1)) := by
    apply (List.subperm_of_subset ha.distinct hsubset).perm_of_length_le
    simp [hlength]
  obtain ⟨other, hother, heq⟩ := List.mem_map.mp (hperm.mem_iff.mpr (List.mem_map_of_mem he))
  exact ⟨other, hother, heq⟩

/-- An item that was just kept is found by its key, whatever else is kept. -/
lemma get?_put_self (hkey : keyOf item = key) (hself : sameKey key key = true) (items : Items)
    (table : Value) : (items.put table item).get? table key = some item := by
  induction items with
  | nil => simp [put, get?, hkey, hself]
  | cons entry rest ih =>
    obtain ⟨t, old⟩ := entry
    rw [put, hkey]
    by_cases hsame : (decide (t = table) && sameKey (keyOf old) key) = true
    · rw [if_pos hsame]
      simp [get?, hkey, hself]
    · rw [if_neg hsame, get?, List.find?_cons_of_neg]
      · exact ih
      · simpa using hsame

/-- No item is found by a key that has a source. -/
lemma get?_of_source (hitems : ∀ entry ∈ items, entry.2.IsNamed) {v : Value}
    (hsource : key.getText? sourceAttribute = some v) (table : Value) :
    items.get? table key = none := by
  rw [get?, Option.map_eq_none_iff, List.find?_eq_none]
  intro entry hentry hfound
  have hsame : sameKey (keyOf entry.2) key = true := by
    simp only [Bool.and_eq_true] at hfound
    exact hfound.2
  have hsome : (key.get? (.text sourceAttribute)).isSome := by
    rw [← Mapping.getText?, hsource, Option.isSome_some]
  obtain ⟨e, he, hname⟩ := (Mapping.isSome_get?_text key sourceAttribute).mp hsome
  obtain ⟨other, hother, heq⟩ :=
    mem_of_sameKey ((hitems entry hentry).erase (.text sourceAttribute)) hsame he
  -- the source is what was erased from the item
  have hkept := (List.mem_filter.mp hother).2
  rw [heq, hname] at hkept
  simp at hkept

end Items

namespace Item

variable {field id tenant document : Value} {items : Items} {item key : Mapping}

/-- The key under a tenant's attribute, which gives way to the identifier where both have one name.
-/
def keyUnder (name : String) (tenant id : Value) : Mapping :=
  Mapping.setText [(.text name, textAttribute tenant)] rangeKey (textAttribute id)

lemma isNamed_keyUnder (name : String) (tenant id : Value) : (keyUnder name tenant id).IsNamed :=
  (Mapping.isNamed_single name _).setText rangeKey _

lemma getText?_keyUnder (name : String) (tenant id : Value) :
    (keyUnder name tenant id).getText? sourceAttribute =
      if name = sourceAttribute then some (textAttribute tenant) else none := by
  rw [keyUnder, Mapping.getText?_setText_of_ne _ _ (by decide), Mapping.getText?, Mapping.get?_cons]
  simp

/-- Every field that is a text names an attribute, and so does having none. -/
lemma exists_hashKey (h : field = .null ∨ ∃ name, field = .text name) :
    ∃ name, hashKey field = .text name ∧
      (name = sourceAttribute ↔ field = .text sourceAttribute) := by
  rcases h with rfl | ⟨name, rfl⟩
  · exact ⟨defaultHashKey, rfl, by decide⟩
  · by_cases hempty : name = ""
    · rw [hempty]
      exact ⟨defaultHashKey, rfl, by decide⟩
    · refine ⟨name, ?_, by simp⟩
      simp [hashKey, Value.orElse, Value.truthy, hempty]

lemma key_eq_keyUnder (hname : hashKey field = .text name) (id tenant : Value) :
    Item.key field id tenant = .ok (keyUnder name (keptFor tenant) id) := by
  rw [Item.key, hname]
  rfl

lemma ofDocument_eq_keyUnder (hname : hashKey field = .text name) (id document tenant : Value) :
    ofDocument field id document tenant =
      (Json.encode .canonical document).map fun source =>
        (keyUnder name (keptFor tenant) id).setText sourceAttribute
          (textAttribute (.text source)) := by
  rw [ofDocument, key_eq_keyUnder hname]
  cases Json.encode .canonical document <;> rfl

/-- The item of a document is the key with a source. -/
lemma exists_setText (hname : hashKey field = .text name)
    (h : ofDocument field id document tenant = .ok item) :
    ∃ source, item = (keyUnder name (keptFor tenant) id).setText sourceAttribute source := by
  rw [ofDocument_eq_keyUnder hname] at h
  obtain ⟨source, -, rfl⟩ := except_map_eq_ok.mp h
  exact ⟨_, rfl⟩

lemma get?_put_own (hname : hashKey field = .text name) (hne : name ≠ sourceAttribute)
    (h : ofDocument field id document tenant = .ok item) (items : Items) (table : Value) :
    (items.put table item).get? table (keyUnder name (keptFor tenant) id) = some item := by
  obtain ⟨source, rfl⟩ := exists_setText hname h
  have hnone := getText?_keyUnder name (keptFor tenant) id
  rw [if_neg hne] at hnone
  apply Items.get?_put_self
  · exact Mapping.erase_setText hnone source
  · exact Items.sameKey_self (isNamed_keyUnder name _ id)

/-- Where the source takes the place of the tenant, no item is found for the tenant. -/
lemma get?_put_clash (hname : hashKey field = .text sourceAttribute)
    (h : ofDocument field id document tenant = .ok item)
    (hitems : ∀ entry ∈ items, entry.2.IsNamed) (table : Value) :
    (items.put table item).get? table (keyUnder sourceAttribute (keptFor tenant) id) = none := by
  obtain ⟨source, rfl⟩ := exists_setText hname h
  have hsource := getText?_keyUnder sourceAttribute (keptFor tenant) id
  rw [if_pos rfl] at hsource
  apply Items.get?_of_source _ hsource
  apply forall_put Mapping.IsNamed hitems table
  exact (isNamed_keyUnder sourceAttribute _ id).setText sourceAttribute source

end Item

/-! ### Clients -/

namespace Client

variable {client : Client} {region field : Value} {search : ClusterBackend} {items : Items}
  {s later : Services} {index id tenant document : Value}

lemma get_of_answer {key : Mapping} {answer : Value}
    (hdelegate : client.delegate = .table region search field)
    (hkey : Item.key field id (client.tenant tenant) = .ok key)
    (hanswer : Item.documentOf (Item.replyTo items index key) = .ok answer)
    (hs : TableHolds items later) (hready : later.Ready tableAccess) :
    (client.get index id tenant later).1 = .ok answer := by
  obtain ⟨result, after, hget, -, -, hresult⟩ := Item.get_cases hs index hkey
  rw [get_of_table hdelegate, hget]
  rcases hresult with hiff | ⟨-, hnot⟩
  · rw [hiff, hanswer]
  · exact absurd hready hnot

/-- Whatever the field for the tenant and the items of the table, a plain document that was put can
be got as long as the table can be asked, unless the field is the attribute of the source: then the
source takes the place of the tenant, and the document is not found. -/
theorem own_write_read_back {around : Surroundings} {settings : Mapping}
    {begin created : Privileged Services}
    (hkind : Backend.ofSetting (settings.getText Setting.kind) = .ok .keyValue)
    (hcreate : create around settings begin = (.ok client, created))
    (hfield : settings.getText Setting.tenantField = .null ∨
      ∃ name, settings.getText Setting.tenantField = .text name)
    (hs : TableHolds items s) (hready : s.Ready tableAccess) (hplain : document.Plain)
    (index id tenant : Value) :
    ∃ reply after, client.put index id document tenant s = (.ok reply, after) ∧
      after.Ready tableAccess ∧
      ∀ later, later.table = after.table → later.Ready tableAccess →
        (settings.getText Setting.tenantField ≠ .text sourceAttribute →
          (client.get index id tenant later).1 = .ok document.sorted ∧
            document.sorted.same document = true) ∧
        (settings.getText Setting.tenantField = .text sourceAttribute →
          (∀ entry ∈ items, entry.2.IsNamed) →
          (client.get index id tenant later).1 = .ok .null) := by
  obtain ⟨transport, hclient, -⟩ := table_of_create hkind hcreate
  generalize settings.getText Setting.tenantField = field at hfield hclient ⊢
  have hdelegate : client.delegate =
      .table (settings.getText Setting.region) ⟨transport, field⟩ field := by
    rw [hclient]
  obtain ⟨name, hname, hclash⟩ := Item.exists_hashKey hfield
  obtain ⟨source, hencode, hdecode⟩ := Json.decode_canonical hplain
  have hkey := Item.key_eq_keyUnder hname id (client.tenant tenant)
  obtain ⟨item, hitem⟩ : ∃ item,
      Item.ofDocument field id document (client.tenant tenant) = .ok item := by
    rw [Item.ofDocument_eq_keyUnder hname, hencode]
    exact ⟨_, rfl⟩
  have hwanted : (Item.ofDocument field id document (client.tenant tenant) >>=
      fun item => .ok (items.put index item)) = .ok (items.put index item) :=
    except_bind_eq_ok.mpr ⟨item, hitem, rfl⟩
  obtain ⟨reply, after, hput, hafter, hagain⟩ :=
    (Item.put_changes hs field index id document _).done_of_ready hwanted hready
  refine ⟨reply, after, by rw [put_of_table hdelegate, hput], hagain, ?_⟩
  intro later htable hlater
  have hholds : TableHolds (items.put index item) later := by
    intro table hsome
    exact hafter table (htable ▸ hsome)
  constructor
  · intro hne
    have hfound := Item.get?_put_own hname (mt hclash.mp hne) hitem items index
    have hread := Item.documentOf_found hfound (Item.getText?_ofDocument hitem hencode)
    rw [hdecode] at hread
    exact ⟨get_of_answer hdelegate hkey hread hholds hlater, Value.same_sorted hplain⟩
  · intro heq hproper
    obtain rfl := hclash.mpr heq
    have hnone := Item.get?_put_clash hname hitem hproper index
    exact get_of_answer hdelegate hkey (Item.documentOf_missing hnone) hholds hlater

/-- Under the attribute of the source, a document is lost as soon as it is put. -/
theorem own_write_lost :
    let settings : Mapping := [
      (.text "metadata-type", .text "keyvalue"), (.text "multi-tenancy", .text "true"),
      (.text "endpoint", .text "https://h"), (.text "region", .text "eu-west-1"),
      (.text "service-name", .text "es"), (.text "tenant-id-field", .text "source")]
    let around : Surroundings := { sources := [{ method := "env", accessKey := some "key" }] }
    let put := Operation.put ⟨.text "i", .text "d", .map [(.text "x", .int 1)], .text "A"⟩
    let created := create around settings ⟨false, {}⟩
    ∃ client, created.1 = .ok client ∧ client.kind = .keyValue ∧
      (put.run client created.2.state).1.isOk = true ∧
      (client.get (.text "i") (.text "d") (.text "A") (put.perform client created.2.state)).1 =
        .ok .null := by
  intro settings around put created
  let transport : Transport :=
    ⟨.text "https://h", ⟨.https, "h", 443⟩, .signing ⟨⟨0⟩⟩ (.text "eu-west-1") (.text "es"), none,
      20, true⟩
  exact ⟨⟨.table (.text "eu-west-1") ⟨transport, .text "source"⟩ (.text "source"), true⟩,
    by decide +kernel, rfl, by decide +kernel, by decide +kernel⟩

/-- Under the attribute of the identifier, a document is found that was put beside an item of
another kind. -/
theorem own_write_read_back_under_id :
    let settings : Mapping := [
      (.text "metadata-type", .text "keyvalue"), (.text "multi-tenancy", .text "true"),
      (.text "endpoint", .text "https://h"), (.text "region", .text "eu-west-1"),
      (.text "service-name", .text "es"), (.text "tenant-id-field", .text "id")]
    let sources : List Source := [{ method := "env", accessKey := some "key" }]
    let items : Items := [(.text "i", [(.text "owner", .text "B"), (.text "id", .text "d")])]
    let s : Services := {
      chains := [{ sources }]
      table := some {
        region := .text "eu-west-1", credentials := ⟨⟨0⟩⟩, service := { contents := items }
        builtElevated := true } }
    let document : Value := .map [(.text "x", .int 1)]
    ∃ client reply after, (create { sources } settings ⟨false, {}⟩).1 = .ok client ∧
      client.put (.text "i") (.text "d") document (.text "A") s = (.ok reply, after) ∧
      (client.get (.text "i") (.text "d") (.text "A") after).1 = .ok document := by
  intro settings sources items s document
  let transport : Transport :=
    ⟨.text "https://h", ⟨.https, "h", 443⟩, .signing ⟨⟨0⟩⟩ (.text "eu-west-1") (.text "es"), none,
      20, true⟩
  let client : Client := ⟨.table (.text "eu-west-1") ⟨transport, .text "id"⟩ (.text "id"), true⟩
  have hclient : (create { sources } settings ⟨false, {}⟩).1 = .ok client := by decide +kernel
  have hcreate : create { sources } settings ⟨false, {}⟩ =
      (.ok client, (create { sources } settings ⟨false, {}⟩).2) := by
    generalize create { sources } settings ⟨false, {}⟩ = outcome at hclient ⊢
    exact Prod.ext hclient rfl
  have hs : TableHolds items s := by
    rintro table ⟨⟩
    exact ⟨rfl, rfl⟩
  have hready : s.Ready tableAccess := by
    refine ⟨some ⟨⟨0⟩⟩, rfl, ?_⟩
    rintro credentials ⟨⟩
    exact ⟨_, rfl, _, rfl⟩
  have hplain : document.Plain := by
    refine .map ?_ ?_ (by decide)
    · simp
    · simp [Value.Plain.int]
  obtain ⟨reply, after, hput, hagain, hget⟩ := own_write_read_back (by decide +kernel) hcreate
    (.inr ⟨"id", rfl⟩) hs hready hplain (.text "i") (.text "d") (.text "A")
  obtain ⟨hshown, -⟩ := (hget after rfl hagain).1 (by decide +kernel)
  have hsorted : document.sorted = document := by decide +kernel
  exact ⟨client, reply, after, hclient, hput, hsorted ▸ hshown⟩

end Client
end Metastore
