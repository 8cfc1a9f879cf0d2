import Metastore.Proofs.Client.Table
import Metastore.Proofs.Json.RoundTrip

/-!
# A table as a map

A client that keeps items in a table behaves like a plain map from tables, tenants and identifiers
to documents: what is put can be got, up to the order of entries in mappings, and tenants do not
meet.
-/

namespace Metastore

open Services (TableHolds tableAccess)

/-- Without a field, and with every text that names no other attribute, tenants have an attribute of
their own. -/
lemma Item.isHash_hashKey {field : Value}
    (h : field = .null ∨ ∃ name, field = .text name ∧ name ≠ rangeKey ∧ name ≠ sourceAttribute) :
    IsHash (hashKey field) := by
  have hdefault : IsHash (.text defaultHashKey) := ⟨rfl, by decide, by decide⟩
  rcases h with rfl | ⟨name, rfl, hrange, hsource⟩
  · exact hdefault
  · by_cases hempty : name = ""
    · rw [hempty]
      exact hdefault
    · have hname : hashKey (.text name) = .text name := by
        simp [hashKey, Value.orElse, Value.truthy, hempty]
      rw [hname]
      exact ⟨rfl, by simpa using hrange, by simpa using hsource⟩

namespace Client

variable {client : Client} {region field : Value} {search : ClusterBackend} {items : Items}
  {s start : Services}

/-! ### Plain documents -/

/-- A plain document has an item, and the source of the item is read as the document with sorted
entries. -/
lemma itemOf_plain (hhash : Item.IsHash (Item.hashKey client.tenantField)) {write : Write}
    (hplain : write.document.Plain) :
    ∃ source, client.itemOf write =
        .ok (Item.full (Item.hashKey client.tenantField)
          (client.effectiveTenant write.tenant) write.id source) ∧
      Json.decode source = .ok write.document.sorted := by
  obtain ⟨source, hencode, hdecode⟩ := Json.decode_canonical hplain
  refine ⟨source, ?_, hdecode⟩
  rw [itemOf, Item.ofDocument_eq hhash, hencode, keptFor_tenant]
  rfl

/-- Writes that have items are all made where the table can be asked. -/
lemma madeInTurn_eq (hdelegate : client.delegate = .table region search field) {writes : List Write}
    (hwrites : ∀ write ∈ writes, ∃ item, client.itemOf write = .ok item) (hs : TableHolds items s)
    (hready : s.Ready tableAccess) : client.madeInTurn writes s = writes := by
  induction writes generalizing s items with
  | nil => rfl
  | cons write rest ih =>
    obtain ⟨item, hitem⟩ := hwrites write List.mem_cons_self
    have hwanted : (client.itemOf write >>= fun item => .ok (items.put write.index item)) =
        .ok (items.put write.index item) := except_bind_eq_ok.mpr ⟨item, hitem, rfl⟩
    obtain ⟨value, after, hput, hafter, hready'⟩ :=
      (put_changes_of_table hdelegate hs write).done_of_ready hwanted hready
    rw [madeInTurn, hput]
    exact congrArg (write :: ·)
      (ih (fun write hwrite => hwrites write (List.mem_cons_of_mem _ hwrite)) hafter hready')

/-- What a plain map gives after some writes. -/
def mapped (client : Client) (writes : List Write) (table tenant id : Value) : Option Value :=
  (lastWrite (Write.isFor client table (client.effectiveTenant tenant) id) writes).map (·.document)

variable {events : List (Event Operation)}

lemma history_eq_asked_of_table (hdelegate : client.delegate = .table region search field)
    (hhash : Item.IsHash (Item.hashKey client.tenantField)) (hstart : TableHolds [] start)
    (hreach : Services.Reachable tableAccess (Operation.perform client) start events)
    (hops : ∀ operation, .perform operation ∈ events →
      operation.Within (fun _ => True) Value.Plain (fun _ => True)) :
    client.history start events = asked events := by
  refine history_eq_asked_of_made fun before operation hbefore => ?_
  obtain ⟨items, hs, haccess, -⟩ :=
    kept_after hdelegate (fun _ _ => True) trivial (fun _ _ _ _ _ _ => trivial) hstart before
  have hready := (hreach.before ((List.prefix_append before _).trans hbefore)).ready haccess
  rw [made_of_table hdelegate]
  refine madeInTurn_eq hdelegate (fun write hwrite => ?_) hs hready
  obtain ⟨-, hplain, -⟩ := (hops operation (hbefore.subset (by simp))).of_mem hwrite
  obtain ⟨source, hitem, -⟩ := itemOf_plain hhash hplain
  exact ⟨_, hitem⟩

/-- Whoever asks is answered as by a plain map. -/
lemma get_mapped (hdelegate : client.delegate = .table region search field)
    (hhash : Item.IsHash (Item.hashKey client.tenantField)) (hstart : TableHolds [] start)
    (hreach : Services.Reachable tableAccess (Operation.perform client) start events)
    (hops : ∀ operation, .perform operation ∈ events →
      operation.Within (fun _ => True) Value.Plain (fun _ => True)) (table id tenant : Value) :
    (client.get table id tenant (client.after start events)).1 =
      .ok (((client.mapped (asked events) table tenant id).map Value.sorted).getD .null) := by
  obtain ⟨items, hs, haccess, -, hfound⟩ := kept_after hdelegate client.FoundByLastWrite
    ⟨Item.AllFull.nil, fun _ _ _ => rfl⟩ (foundByLastWrite_kept hhash) hstart events
  have hhistory := history_eq_asked_of_table hdelegate hhash hstart hreach hops
  have hfield : client.tenantField = field := by rw [Client.tenantField, hdelegate]; rfl
  have hkey : Item.key field id (client.tenant tenant) =
      .ok (Item.keyed (Item.hashKey field) (client.effectiveTenant tenant) id) := by
    rw [← keptFor_tenant, ← hfield]
    exact Item.key_eq hhash.isKey hhash.ne_range id _
  obtain ⟨result, after, hget, -, -, hresult⟩ := Item.get_cases hs table hkey
  rw [get_of_table hdelegate, hget]
  have hshown := hfound table (client.effectiveTenant tenant) id
  rw [hhistory, hfield] at hshown
  rcases hresult with hiff | ⟨-, hnot⟩
  · -- the item is the one of the last write that was asked for, as every such write was made
    refine (hiff _).mpr ?_
    rw [mapped]
    cases hlast : lastWrite (Write.isFor client table (client.effectiveTenant tenant) id)
        (asked events) with
    | none =>
      rw [hlast] at hshown
      exact Item.documentOf_missing hshown
    | some write =>
      obtain ⟨operation, hmem, hwrite⟩ := exists_operation_of_asked (mem_of_lastWrite hlast)
      obtain ⟨-, hplain, -⟩ := (hops operation hmem).of_mem hwrite
      obtain ⟨source, hitem, hdecode⟩ := itemOf_plain hhash hplain
      rw [hlast, Option.bind_some, hitem, hfield] at hshown
      rw [hfield] at hhash
      rw [Item.documentOf_full hhash hshown, hdecode]
      rfl
  · exact absurd (hreach.ready haccess) hnot

/-- On a table service that was empty, and can be asked all along, every tenant who asks for a
document gets what the last write for this tenant, table and identifier wrote, and null if there was
none. What is written for others makes no difference. -/
theorem table_refines_map (hdelegate : client.delegate = .table region search field)
    (hfield : field = .null ∨
      ∃ name, field = .text name ∧ name ≠ Item.rangeKey ∧ name ≠ sourceAttribute)
    (hstart : TableHolds [] start)
    (hreach : Services.Reachable tableAccess (Operation.perform client) start events)
    (hops : ∀ operation, .perform operation ∈ events →
      operation.Within (fun _ => True) Value.Plain (fun _ => True))
    (table id tenant : Value) :
    (∃ answer, (client.get table id tenant (client.after start events)).1 = .ok answer ∧
      match client.mapped (asked events) table tenant id with
      | some document => answer = document.sorted ∧ answer.same document = true
      | none => answer = .null) ∧
    ∀ before others, events = before ++ others →
      (∀ write ∈ asked others,
        client.effectiveTenant write.tenant ≠ client.effectiveTenant tenant) →
      (client.get table id tenant (client.after start events)).1 =
        (client.get table id tenant (client.after start before)).1 := by
  have hhash : Item.IsHash (Item.hashKey client.tenantField) := by
    rw [Client.tenantField, hdelegate]
    exact Item.isHash_hashKey hfield
  have hget := get_mapped hdelegate hhash hstart hreach hops table id tenant
  constructor
  · refine ⟨_, hget, ?_⟩
    cases hmapped : client.mapped (asked events) table tenant id with
    | none => rfl
    | some document =>
      obtain ⟨write, hlast, rfl⟩ := Option.map_eq_some_iff.mp hmapped
      obtain ⟨operation, hmem, hwrite⟩ := exists_operation_of_asked (mem_of_lastWrite hlast)
      obtain ⟨-, hplain, -⟩ := (hops operation hmem).of_mem hwrite
      exact ⟨rfl, Value.same_sorted hplain⟩
  · rintro before others rfl hothers
    have hbefore := get_mapped hdelegate hhash hstart
      (hreach.before (List.prefix_append before others))
      (fun operation hmem => hops operation (List.mem_append_left others hmem)) table id tenant
    have hsame : client.mapped (asked (before ++ others)) table tenant id =
        client.mapped (asked before) table tenant id := by
      rw [mapped, mapped, asked, List.flatMap_append, lastWrite_append_of_not]
      · rfl
      · intro write hwrite
        simp [Write.isFor, hothers write hwrite]
    rw [hget, hbefore, hsame]

/-- A tenant who is named as the default tenant shares the documents of those who name none. -/
theorem table_refines_map_default :
    let client : Client := {
      delegate := .table (.text "eu") ⟨⟨.null, ⟨.https, "h", 443⟩, .anonymous, none, 20, false⟩,
        .null⟩ .null
      multiTenancy := true }
    let start : Services := {
      chains := [{ sources := [{ method := "env", accessKey := some "key" }] }]
      table := some { region := .text "eu", credentials := ⟨⟨0⟩⟩, builtElevated := false } }
    let events : List (Event Operation) := [
      .perform (.put ⟨.text "i", .text "d", .text "first", .text "A"⟩),
      .perform (.bulk (.text "i") (.list [.list [.text "d", .list [.int 2, .null]]]) .null)]
    (client.get (.text "i") (.text "d") (.text "A") (client.after start events)).1 =
        .ok (.text "first") ∧
      (client.get (.text "i") (.text "d") (.text "DEFAULT_TENANT") (client.after start events)).1 =
        .ok (.list [.int 2, .null]) := by
  intro client start events
  have hstart : TableHolds [] start := by
    rintro table ⟨⟩
    exact ⟨rfl, rfl⟩
  have hreach : Services.Reachable tableAccess (Operation.perform client) start events := by
    refine ⟨some ⟨⟨0⟩⟩, rfl, ?_⟩
    rintro credentials ⟨⟩ before hbefore
    simp only [events, List.prefix_cons_iff, List.prefix_nil] at hbefore
    rcases hbefore with rfl | ⟨_, rfl, rfl | ⟨_, rfl, rfl⟩⟩
    · exact ⟨_, rfl, _, rfl⟩
    · exact ⟨_, rfl, _, rfl⟩
    · exact ⟨_, rfl, _, rfl⟩
  have hops : ∀ operation, .perform operation ∈ events →
      operation.Within (fun _ => True) Value.Plain (fun _ => True) := by
    intro operation hoperation
    rcases List.mem_cons.mp hoperation with hput | hbulk
    · obtain rfl := Event.perform.inj hput
      exact ⟨trivial, .text "first", trivial⟩
    · obtain rfl := Event.perform.inj (List.mem_singleton.mp hbulk)
      refine ⟨⟨_, rfl, fun element helement => ?_⟩, trivial⟩
      obtain rfl := List.mem_singleton.mp helement
      refine ⟨_, _, rfl, trivial, .list ?_⟩
      intro v hv
      rcases List.mem_cons.mp hv with rfl | hnull
      · exact .int 2
      · obtain rfl := List.mem_singleton.mp hnull
        exact .null
  have hmain := fun tenant =>
    (table_refines_map (show client.delegate = .table _ _ _ from rfl) (.inl rfl) hstart
      hreach hops (.text "i") (.text "d") tenant).1
  constructor
  · obtain ⟨answer, hget, hanswer⟩ := hmain (.text "A")
    rw [hget, hanswer.1]
    rfl
  · obtain ⟨answer, hget, hanswer⟩ := hmain (.text "DEFAULT_TENANT")
    rw [hget, hanswer.1]
    rfl

end Client
end Metastore
