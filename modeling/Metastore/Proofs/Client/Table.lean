import Metastore.Proofs.Client.History
import Metastore.Proofs.Client.Items
import Metastore.Proofs.Services.Reaction

/-!
# What tables hold

A client that keeps documents as items of a table puts one item for every write that it makes, one
after another. What such puts keep holds after every run (`kept_after`), and so the item of the last
write is found for every table, tenant and identifier.
-/

namespace Metastore

open Services (TableHolds tableAccess)

namespace Item

variable {items : Items} {s : Services} {key : Mapping}

lemma put_changes (hs : TableHolds items s) (field table id document tenant : Value) :
    Changes TableHolds tableAccess items
      (ofDocument field id document tenant >>= fun item => .ok (items.put table item)) s
      (put field table id document tenant s) := by
  refine .lift_bind hs fun item _ => Changes.surfacing ?_
  exact .of_reaction (Services.callTable_reaction hs (.putItem table item))

/-- Getting changes nothing. It gives what the reply shows, or the service was not ready. -/
lemma get_cases (hs : TableHolds items s) {field id tenant : Value} (table : Value)
    (hkey : Item.key field id tenant = .ok key) :
    ∃ result after, get field table id tenant s = (result, after) ∧ TableHolds items after ∧
      tableAccess after = tableAccess s ∧
      ((∀ value, result = .ok value ↔ documentOf (replyTo items table key) = .ok value) ∨
        (∃ failure, result = .error failure) ∧ ¬ s.Ready tableAccess) := by
  have hreaction := Services.callTable_reaction hs (.getItem table key)
  rw [get, Services.lift_bind_of_ok hkey, Action.bind_apply, Failure.surfacing]
  generalize Services.callTable (.getItem table key) s = outcome at hreaction
  cases hreaction with
  | @answered after hafter haccess hkept =>
    refine ⟨_, after, rfl, ?_, haccess, .inl fun value => ?_⟩
    · simp only [Requests.respond, TableRequest.respond] at hafter
      split at hafter <;> exact hafter
    · exact mapError_eq_ok
  | @refused failure after hafter haccess hnot hreason =>
    exact ⟨_, after, rfl, hafter, haccess, .inr ⟨⟨_, rfl⟩, hnot⟩⟩

/-! ### Lists of documents -/

variable {field table tenant element id document : Value}

lemma putAll_cons (hpair : element.pair = .ok (id, document)) (rest : List Value) :
    putAll field table tenant (element :: rest) =
      put field table id document tenant >>= fun answer =>
        (answer :: ·) <$> putAll field table tenant rest := by
  rw [putAll, Services.lift_bind_of_ok hpair]
  rfl

lemma putAll_cons_of_error {problem : Problem} (hpair : element.pair = .error problem)
    (rest : List Value) (s : Services) :
    putAll field table tenant (element :: rest) s = (.error (.of problem), s) := by
  rw [putAll, Services.lift_bind_of_error hpair]

lemma bulk_of_elements {documents : Value} {elements : List Value}
    (h : documents.elements = .ok elements) :
    bulk field table documents tenant =
      Target.bulkAnswer <$> putAll field table tenant elements := by
  rw [bulk, Services.lift_bind_of_ok h]
  rfl

lemma bulk_of_error {documents : Value} {problem : Problem}
    (h : documents.elements = .error problem) (s : Services) :
    bulk field table documents tenant s = (.error (.of problem), s) := by
  rw [bulk, Services.lift_bind_of_error h]

lemma get_of_error {problem : Problem} (h : Item.key field id tenant = .error problem)
    (s : Services) : get field table id tenant s = (.error (.of problem), s) := by
  rw [get, Services.lift_bind_of_error h]

end Item

namespace Client

variable {client : Client} {region field : Value} {search : ClusterBackend} {items : Items}
  {s start : Services} {history : List Write}

/-- The tenant under which a client keeps items: the given one, where the client passes tenants on
and there is one, and otherwise a default. -/
def effectiveTenant (client : Client) (tenant : Value) : Value :=
  if client.multiTenancy && tenant.truthy then tenant else .text Item.defaultTenant

lemma keptFor_tenant (client : Client) (tenant : Value) :
    Item.keptFor (client.tenant tenant) = client.effectiveTenant tenant := by
  rw [Item.keptFor, Client.tenant, effectiveTenant, Value.orElse]
  cases client.multiTenancy <;> simp [Value.truthy]

/-- The item that is put for a write. -/
def itemOf (client : Client) (write : Write) : Except Problem Mapping :=
  Item.ofDocument client.tenantField write.id write.document (client.tenant write.tenant)

/-! ### Writes in turn -/

lemma put_of_table (hdelegate : client.delegate = .table region search field)
    (index id document tenant : Value) :
    client.put index id document tenant =
      Item.put field index id document (client.tenant tenant) := by
  rw [Client.put, hdelegate]
  rfl

lemma put_changes_of_table (hdelegate : client.delegate = .table region search field)
    (hs : TableHolds items s) (write : Write) :
    Changes TableHolds tableAccess items
      (client.itemOf write >>= fun item => .ok (items.put write.index item)) s
      (client.put write.index write.id write.document write.tenant s) := by
  rw [put_of_table hdelegate, itemOf, tenantField, hdelegate]
  exact Item.put_changes hs field write.index write.id write.document _

/-- Whether something that holds of the items and the history so far is kept where an item is put
for a write. -/
def KeptByPuts (client : Client) (Kept : Items → List Write → Prop) : Prop :=
  ∀ items history write item, Kept items history → client.itemOf write = .ok item →
    Kept (items.put write.index item) (history ++ [write])

variable {Kept : Items → List Write → Prop}

/-- Writing a list of documents is making its writes in turn. -/
lemma putAll_kept (hdelegate : client.delegate = .table region search field)
    (hputs : client.KeptByPuts Kept) (hs : TableHolds items s) (hkept : Kept items history)
    (index tenant : Value) (elements : List Value) :
    ∃ changed, TableHolds changed (Item.putAll field index (client.tenant tenant) elements s).2 ∧
      tableAccess (Item.putAll field index (client.tenant tenant) elements s).2 = tableAccess s ∧
      Kept changed (history ++ client.madeInTurn (listed index tenant elements) s) := by
  induction elements generalizing s items history with
  | nil => exact ⟨items, hs, rfl, by simpa [listed, madeInTurn] using hkept⟩
  | cons element rest ih =>
    cases hpair : element.pair with
    | error problem =>
      rw [Item.putAll_cons_of_error hpair, listed, hpair]
      exact ⟨items, hs, rfl, by simpa [madeInTurn] using hkept⟩
    | ok parts =>
      obtain ⟨id, document⟩ := parts
      have hchanges := put_changes_of_table hdelegate hs ⟨index, id, document, tenant⟩
      rw [Item.putAll_cons hpair, ← put_of_table hdelegate, listed, hpair]
      simp only [madeInTurn, Action.bind_apply, Action.map_apply]
      generalize client.put index id document tenant s = outcome at hchanges ⊢
      cases hchanges with
      | done hwanted hafter haccess hsigned =>
        obtain ⟨item, hitem, hput⟩ := except_bind_eq_ok.mp hwanted
        obtain rfl := Except.ok.inj hput
        have hrest := ih hafter (hputs items history ⟨index, id, document, tenant⟩ item hkept hitem)
        rw [List.append_assoc, haccess] at hrest
        exact hrest
      | failed hafter haccess hwhy => exact ⟨items, hafter, haccess, by simpa using hkept⟩

/-! ### Runs -/

lemma made_of_table (hdelegate : client.delegate = .table region search field)
    (operation : Operation) (s : Services) :
    operation.made client s = client.madeInTurn operation.writes s := by
  rw [Operation.made, hdelegate]

lemma bulk_of_table (hdelegate : client.delegate = .table region search field)
    (index documents tenant : Value) :
    client.bulk index documents tenant =
      Item.bulk field index documents (client.tenant tenant) := by
  rw [Client.bulk, hdelegate]
  rfl

lemma get_of_table (hdelegate : client.delegate = .table region search field)
    (index id tenant : Value) :
    client.get index id tenant = Item.get field index id (client.tenant tenant) := by
  rw [Client.get, hdelegate]
  rfl

lemma perform_kept (hdelegate : client.delegate = .table region search field)
    (hputs : client.KeptByPuts Kept) (hs : TableHolds items s) (hkept : Kept items history)
    (operation : Operation) :
    ∃ changed, TableHolds changed (operation.perform client s) ∧
      tableAccess (operation.perform client s) = tableAccess s ∧
      Kept changed (history ++ operation.made client s) := by
  rw [made_of_table hdelegate, Operation.perform]
  cases operation with
  | put write =>
    have hchanges := put_changes_of_table hdelegate hs write
    simp only [Operation.run, Operation.writes, madeInTurn]
    generalize client.put write.index write.id write.document write.tenant s = outcome at hchanges ⊢
    cases hchanges with
    | done hwanted hafter haccess hsigned =>
      obtain ⟨item, hitem, hput⟩ := except_bind_eq_ok.mp hwanted
      obtain rfl := Except.ok.inj hput
      exact ⟨_, hafter, haccess, hputs items history write item hkept hitem⟩
    | failed hafter haccess hwhy => exact ⟨items, hafter, haccess, by simpa using hkept⟩
  | bulk index documents tenant =>
    rw [Operation.run, Operation.writes, bulk_of_table hdelegate]
    cases helements : documents.elements with
    | error problem =>
      rw [Item.bulk_of_error helements]
      exact ⟨items, hs, rfl, by simpa [Except.toOption, listed, madeInTurn] using hkept⟩
    | ok elements =>
      rw [Item.bulk_of_elements helements, Action.map_apply]
      exact putAll_kept hdelegate hputs hs hkept index tenant elements
  | get index id tenant =>
    rw [Operation.run, get_of_table hdelegate]
    cases hkey : Item.key field id (client.tenant tenant) with
    | error problem =>
      rw [Item.get_of_error hkey]
      exact ⟨items, hs, rfl, by simpa [Operation.writes, madeInTurn] using hkept⟩
    | ok key =>
      obtain ⟨result, after, hget, hafter, haccess, -⟩ := Item.get_cases hs index hkey
      rw [hget]
      exact ⟨items, hafter, haccess, by simpa [Operation.writes, madeInTurn] using hkept⟩

/-- What holds of no items and no writes, and is kept where an item is put for a write, holds after
every run on a table service that was empty. -/
lemma kept_after (hdelegate : client.delegate = .table region search field)
    (Kept : Items → List Write → Prop) (hnil : Kept [] []) (hputs : client.KeptByPuts Kept)
    (hstart : TableHolds [] start) (events : List (Event Operation)) :
    ∃ items, TableHolds items (client.after start events) ∧
      tableAccess (client.after start events) = tableAccess start ∧
      Kept items (client.history start events) := by
  refine kept_run ?_ ?_ hstart hnil events
  · intro items s now chain hs
    exact ⟨hs, rfl⟩
  · intro items history s operation hs hkept
    exact perform_kept hdelegate hputs hs hkept operation

/-! ### The last write -/

/-- Whether a write is for a table, a tenant and an identifier. -/
def Write.isFor (client : Client) (table tenant id : Value) (write : Write) : Bool :=
  decide (write.index = table ∧ client.effectiveTenant write.tenant = tenant ∧ write.id = id)

/-- Whether the items are full, and the item of the last write is found for every table, tenant and
identifier. -/
def FoundByLastWrite (client : Client) (items : Items) (history : List Write) : Prop :=
  Item.AllFull (Item.hashKey client.tenantField) items ∧
    ∀ table tenant id, items.get? table (Item.keyed (Item.hashKey client.tenantField) tenant id) =
      (lastWrite (Write.isFor client table tenant id) history).bind fun write =>
        (client.itemOf write).toOption

/-- The item of a write is for its tenant and identifier, and has the text of its document as the
source. -/
lemma itemOf_eq_ok (hhash : Item.IsHash (Item.hashKey client.tenantField)) {write : Write}
    {item : Mapping} (h : client.itemOf write = .ok item) :
    ∃ source, Json.encode .canonical write.document = .ok source ∧
      item = Item.full (Item.hashKey client.tenantField)
        (client.effectiveTenant write.tenant) write.id source := by
  rw [itemOf, Item.ofDocument_eq hhash, keptFor_tenant] at h
  cases hsource : Json.encode .canonical write.document with
  | error problem =>
    rw [hsource] at h
    cases h
  | ok source =>
    rw [hsource] at h
    exact ⟨source, rfl, (Except.ok.inj h).symm⟩

lemma foundByLastWrite_kept (hhash : Item.IsHash (Item.hashKey client.tenantField)) :
    client.KeptByPuts client.FoundByLastWrite := by
  rintro items history write item ⟨hfull, hfound⟩ hitem
  obtain ⟨source, -, rfl⟩ := itemOf_eq_ok hhash hitem
  refine ⟨hfull.put _ _ _ _, fun table tenant id => ?_⟩
  rw [Item.get?_put hhash hfull, lastWrite_concat, hfound]
  by_cases hfor : write.index = table ∧ client.effectiveTenant write.tenant = tenant ∧ write.id = id
  · simp [Write.isFor, hfor, hitem, Except.toOption]
  · simp [Write.isFor, hfor]

end Client
end Metastore
