import Metastore.Proofs.Client.Creation
import Metastore.Proofs.Client.Ownership

/-!
# Tenants apart

Whatever the settings that a client is created for, a tenant gets back only what was written for
this tenant, if document stores have a tenant field and items have an attribute for the tenant.
-/

namespace Metastore

open Services (TableHolds tableAccess)

namespace Client

variable {client : Client} {region field : Value} {search : ClusterBackend} {items : Items}
  {s start : Services} {history : List Write} {events : List (Event Operation)}

/-! ### Writes of one tenant -/

/-- The tenant of an operation. -/
def Operation.tenant : Operation → Value
  | put write => write.tenant
  | bulk _ _ tenant => tenant
  | get _ _ tenant => tenant

lemma tenant_of_listed {index tenant : Value} {elements : List Value} {write : Write}
    (h : write ∈ listed index tenant elements) : write.tenant = tenant := by
  induction elements with
  | nil => cases h
  | cons element rest ih =>
    rw [listed] at h
    split at h
    · rcases List.mem_cons.mp h with rfl | hrest
      · rfl
      · exact ih hrest
    · cases h

lemma Operation.tenant_of_writes {operation : Operation} {write : Write}
    (h : write ∈ operation.writes) : write.tenant = operation.tenant := by
  cases operation with
  | put only =>
    obtain rfl : write = only := List.mem_singleton.mp h
    rfl
  | bulk index documents tenant => exact tenant_of_listed h
  | get index id tenant => cases h

/-- Whether a write is for a place and a tenant. -/
def Write.isOwn (index id tenant : Value) (write : Write) : Bool :=
  Write.isAt index id write && decide (write.tenant = tenant)

/-- What is read back of a write. -/
def readBack (client : Client) (write : Write) : Option Value :=
  match client.delegate with
  | .table .. =>
    (Json.encode .canonical write.document).toOption.bind fun source =>
      (Json.decode source).toOption
  | _ => client.stored write

/-- The last write with a property is the last write with a stronger one, if it has it. -/
lemma lastWrite_of_stronger {weaker stronger : Write → Bool} {write : Write}
    (h : lastWrite weaker history = some write) (hwrite : stronger write = true)
    (himp : ∀ write, stronger write = true → weaker write = true) :
    lastWrite stronger history = some write := by
  rw [lastWrite] at h ⊢
  generalize history.reverse = writes at h ⊢
  induction writes with
  | nil => cases h
  | cons last earlier ih =>
    rw [List.find?_cons] at h ⊢
    cases hweaker : weaker last with
    | true =>
      rw [hweaker] at h
      obtain rfl : last = write := Option.some.inj h
      rw [hwrite]
    | false =>
      have hstronger : stronger last = false := Bool.eq_false_iff.mpr fun htrue => by
        rw [himp last htrue] at hweaker
        cases hweaker
      rw [hweaker] at h
      rw [hstronger]
      exact ih h

lemma lastWrite_congr {one other : Write → Bool} (h : ∀ write ∈ history, one write = other write) :
    lastWrite one history = lastWrite other history := by
  exact List.find?_congr fun write hwrite => h write (List.mem_reverse.mp hwrite)

/-- Every tenant that documents are written for by some operations is a text that is not empty. -/
def NameTenants (events : List (Event Operation)) : Prop :=
  ∀ operation, .perform operation ∈ events → ∃ t, operation.tenant = .text t ∧ t ≠ ""

lemma NameTenants.of_history (h : NameTenants events) {write : Write}
    (hwrite : write ∈ client.history start events) : ∃ t, write.tenant = .text t ∧ t ≠ "" := by
  obtain ⟨operation, hmem, hasked⟩ := exists_operation_of_history hwrite
  rw [Operation.tenant_of_writes hasked]
  exact h operation hmem

/-- What a tenant gets is what is read back of the last write for this tenant and place; from a
document store, it is also the last write to the place for any tenant. -/
def GivesOwn (client : Client) (start : Services) (events : List (Event Operation))
    (index id : Value) (t : String) : Prop :=
  ∀ answer, (client.get index id (.text t) (client.after start events)).1 = .ok answer →
    answer ≠ .null →
    ∃ write, lastWrite (Write.isOwn index id (.text t)) (client.history start events) = some write ∧
      client.readBack write = some answer ∧
      (client.delegate.target?.isSome = true →
        lastWrite (Write.isAt index id) (client.history start events) = some write)

/-! ### Document stores -/

lemma readBack_of_target {target : Target} (htarget : client.delegate.target? = some target)
    (write : Write) : client.readBack write = client.stored write := by
  rw [readBack]
  split
  · next hdelegate =>
    rw [hdelegate] at htarget
    cases htarget
  · rfl

lemma givesOwn_of_target {target : Target} (htarget : client.delegate.target? = some target)
    (hmulti : client.multiTenancy = true) (hfield : client.tenantField.truthy = true)
    (hstart : target.Holds [] start) (htenants : NameTenants events) (index id : Value)
    (t : String) : client.GivesOwn start events index id t := by
  intro answer hanswer hne
  obtain ⟨documents, hs, -, hrecorded⟩ := recorded_after htarget hstart events
  have htexts : ∀ write ∈ client.history start events, ∃ t, write.tenant = .text t := by
    intro write hwrite
    obtain ⟨owner, howner, -⟩ := htenants.of_history hwrite
    exact ⟨owner, howner⟩
  obtain ⟨hshown, -⟩ := get_recorded htarget hmulti hfield hs hrecorded htexts index id t
  obtain rfl := hshown answer hanswer
  cases hlast : lastWrite (Write.isAt index id) (client.history start events) with
  | none =>
    rw [hlast] at hne
    exact absurd rfl hne
  | some write =>
    rw [hlast] at hne
    rw [Option.map_some, Option.getD_some, shownTo] at hne ⊢
    by_cases howner : write.tenant = .text t
    · rw [if_pos howner] at hne ⊢
      have hat := property_of_lastWrite hlast
      refine ⟨write, ?_, ?_, fun _ => rfl⟩
      · refine lastWrite_of_stronger hlast ?_ fun other hother => ?_
        · simp [Write.isOwn, hat, howner]
        · exact (Bool.and_eq_true_iff.mp hother).1
      · rw [readBack_of_target htarget]
        cases hstored : client.stored write with
        | none =>
          rw [hstored] at hne
          exact absurd rfl hne
        | some document => rfl
    · rw [if_neg howner] at hne
      exact absurd rfl hne

/-! ### Tables -/

/-- An attribute for the tenant that is also the one for the source is lost in every item, which is
then found by no key. -/
def AllShort (items : Items) : Prop := ∀ entry ∈ items, (Items.keyOf entry.2).length = 1

lemma get?_of_allShort (h : AllShort items) (table hash tenant id : Value) :
    items.get? table (Item.keyed hash tenant id) = none := by
  rw [Items.get?, Option.map_eq_none_iff, List.find?_eq_none]
  intro entry hentry
  simp [Items.sameKey, h entry hentry, Item.keyed]

lemma allShort_kept (hhash : Item.hashKey client.tenantField = .text sourceAttribute) :
    client.KeptByPuts fun items _ => AllShort items := by
  intro items history write item hshort hitem
  refine Item.forall_put (fun item => (Items.keyOf item).length = 1) hshort write.index ?_
  have hrange : Item.hashKey client.tenantField ≠ .text Item.rangeKey := by rw [hhash]; decide
  rw [itemOf, Item.ofDocument, Item.key_eq (by rw [hhash]; rfl) hrange, hhash] at hitem
  cases hsource : Json.encode .canonical write.document with
  | error problem =>
    rw [hsource] at hitem
    cases hitem
  | ok source =>
    rw [hsource] at hitem
    obtain rfl := Except.ok.inj hitem
    rfl

/-- A tenant that is a text and not empty is kept as it is. -/
lemma effectiveTenant_text (hmulti : client.multiTenancy = true) {t : String} (ht : t ≠ "") :
    client.effectiveTenant (.text t) = .text t := by
  simp [effectiveTenant, hmulti, Value.truthy, ht]

/-- Where the attribute for the tenant is lost, nobody gets anything. -/
lemma get_of_lost (hdelegate : client.delegate = .table region search field)
    (hsource : Item.hashKey field = .text sourceAttribute) (hstart : TableHolds [] start)
    (index id tenant : Value) {answer : Value}
    (hanswer : (client.get index id tenant (client.after start events)).1 = .ok answer) :
    answer = .null := by
  have hfield : Item.hashKey client.tenantField = .text sourceAttribute := by
    rw [Client.tenantField, hdelegate]
    exact hsource
  obtain ⟨items, hs, -, hshort⟩ := kept_after hdelegate (fun items _ => AllShort items)
    (by rintro entry ⟨⟩) (allShort_kept hfield) hstart events
  have hkey : Item.key field id (client.tenant tenant) =
      .ok (Item.keyed (Item.hashKey field) (Item.keptFor (client.tenant tenant)) id) :=
    Item.key_eq (by rw [hsource]; rfl) (by rw [hsource]; decide) id _
  obtain ⟨result, after, hget, -, -, hresult⟩ := Item.get_cases hs index hkey
  rw [get_of_table hdelegate, hget] at hanswer
  have hmissing := Item.documentOf_missing
    (get?_of_allShort hshort index (Item.hashKey field) (Item.keptFor (client.tenant tenant)) id)
  rcases hresult with hiff | ⟨⟨failure, rfl⟩, -⟩
  · rw [hiff, hmissing] at hanswer
    exact (Except.ok.inj hanswer).symm
  · cases hanswer

/-- Where tenants have an attribute of their own, each gets what was written for it. -/
lemma givesOwn_of_isHash (hdelegate : client.delegate = .table region search field)
    (hmulti : client.multiTenancy = true) (hhash : Item.IsHash (Item.hashKey field))
    (hstart : TableHolds [] start) (htenants : NameTenants events) (index id : Value) {t : String}
    (ht : t ≠ "") :
    client.GivesOwn start events index id t := by
  intro answer hanswer hne
  have hfield : client.tenantField = field := by rw [Client.tenantField, hdelegate]; rfl
  rw [← hfield] at hhash
  obtain ⟨items, hs, -, -, hfound⟩ := kept_after hdelegate client.FoundByLastWrite
    ⟨Item.AllFull.nil, fun _ _ _ => rfl⟩ (foundByLastWrite_kept hhash) hstart events
  have hkey : Item.key field id (client.tenant (.text t)) =
      .ok (Item.keyed (Item.hashKey client.tenantField) (.text t) id) := by
    rw [← hfield, Item.key_eq hhash.isKey hhash.ne_range, keptFor_tenant,
      effectiveTenant_text hmulti ht]
  have hsame : lastWrite (Write.isFor client index (.text t) id) (client.history start events) =
      lastWrite (Write.isOwn index id (.text t)) (client.history start events) := by
    refine lastWrite_congr fun write hwrite => ?_
    obtain ⟨owner, howner, hnonempty⟩ := htenants.of_history hwrite
    simp [Write.isFor, Write.isOwn, Write.isAt, howner, effectiveTenant_text hmulti hnonempty,
      Bool.and_comm, Bool.and_left_comm]
  have hshown := hfound index (.text t) id
  obtain ⟨result, after, hget, -, -, hresult⟩ := Item.get_cases hs index hkey
  rw [get_of_table hdelegate, hget] at hanswer
  rw [hsame] at hshown
  rcases hresult with hiff | ⟨⟨failure, rfl⟩, -⟩
  · rw [hiff] at hanswer
    cases hlast : lastWrite (Write.isOwn index id (.text t)) (client.history start events) with
    | none =>
      rw [hlast] at hshown
      rw [Item.documentOf_missing hshown] at hanswer
      exact absurd (Except.ok.inj hanswer).symm hne
    | some write =>
      rw [hlast, Option.bind_some] at hshown
      cases hitem : client.itemOf write with
      | error problem =>
        rw [hitem] at hshown
        rw [Item.documentOf_missing hshown] at hanswer
        exact absurd (Except.ok.inj hanswer).symm hne
      | ok item =>
        obtain ⟨source, hencode, rfl⟩ := itemOf_eq_ok hhash hitem
        rw [hitem] at hshown
        rw [Item.documentOf_full hhash hshown] at hanswer
        refine ⟨write, rfl, ?_, fun htarget => ?_⟩
        · rw [readBack, hdelegate]
          simp only [hencode, Except.toOption, Option.bind_some, hanswer]
        · rw [hdelegate] at htarget
          cases htarget
  · cases hanswer

lemma givesOwn_of_table (hdelegate : client.delegate = .table region search field)
    (hmulti : client.multiTenancy = true) (hfield : field ≠ .text Item.rangeKey)
    (hstart : TableHolds [] start) (htenants : NameTenants events) (index id : Value) {t : String}
    (ht : t ≠ "") :
    client.GivesOwn start events index id t := by
  have hrange : Item.hashKey field ≠ .text Item.rangeKey := by
    rw [Item.hashKey, Value.orElse]
    split
    · exact hfield
    · decide
  -- a field that is no key fails every operation, and one that is the source loses every item
  cases hisKey : (Item.hashKey field).isKey with
  | false =>
    intro answer hanswer
    have hkey : Item.key field id (client.tenant (.text t)) = .error .wrongType := by
      rw [Item.key, Value.setEntry, hisKey]
      rfl
    rw [get_of_table hdelegate, Item.get_of_error hkey] at hanswer
    cases hanswer
  | true =>
    by_cases hsource : Item.hashKey field = .text sourceAttribute
    · intro answer hanswer hne
      exact absurd (get_of_lost hdelegate hsource hstart index id (.text t) hanswer) hne
    · exact givesOwn_of_isHash hdelegate hmulti
        ⟨hisKey, hrange, hsource⟩ hstart htenants index id ht

/-! ### Created clients -/

/-- Without a tenant field, and with the one that the identifier needs, a tenant gets what another
one wrote. -/
theorem others_document_without_own_field :
    let start : Privileged Services := ⟨false, { callerStore := some { contents := [] } }⟩
    let around : Surroundings := { sources := [{ method := "env", accessKey := some "key" }] }
    let events : List (Event Operation) :=
      [.perform (.put ⟨.text "i", .text "d", .map [(.text "x", .int 1)], .text "A"⟩)]
    ∀ settings ∈ ([
      [(.text "multi-tenancy", .text "true")],
      [(.text "multi-tenancy", .text "true"), (.text "metadata-type", .text "keyvalue"),
        (.text "endpoint", .text "https://h"), (.text "region", .text "eu-west-1"),
        (.text "service-name", .text "es"), (.text "tenant-id-field", .text "id")]] : List Mapping),
      ∃ client, (create around settings start).1 = .ok client ∧ client.multiTenancy = true ∧
        (client.get (.text "i") (.text "d") (.text "B")
          (client.after (create around settings start).2.state events)).1 =
            .ok (.map [(.text "x", .int 1)]) ∧
        ∀ write ∈ client.history (create around settings start).2.state events,
          write.tenant = .text "A" := by
  intro start around events settings hsettings
  rcases List.mem_cons.mp hsettings with rfl | htable
  · exact ⟨⟨.callerStore .null .null, true⟩,
      by decide +kernel, rfl, by decide +kernel, by decide +kernel⟩
  · obtain rfl := List.mem_singleton.mp htable
    let transport : Transport :=
      ⟨.text "https://h", ⟨.https, "h", 443⟩, .signing ⟨⟨0⟩⟩ (.text "eu-west-1") (.text "es"),
        none, 20, true⟩
    exact ⟨⟨.table (.text "eu-west-1") ⟨transport, .text "id"⟩ (.text "id"), true⟩,
      by decide +kernel, rfl, by decide +kernel, by decide +kernel⟩

lemma kind_of_target {target : Target} (htarget : client.delegate.target? = some target) :
    client.kind ≠ .keyValue := by
  rw [Client.kind]
  cases hdelegate : client.delegate with
  | callerStore registry field => simp [Delegate.kind]
  | cluster backend =>
    rw [Delegate.kind, ClusterBackend.kind]
    split <;> decide
  | table region search field =>
    rw [hdelegate] at htarget
    cases htarget

/-- Whatever settings a client with multi-tenancy is created for, as long as a document store has a
tenant field and the one of a table is not the attribute for the identifier: in every run of
operations that name tenants, on stores that were empty, a tenant gets what was last written for
this tenant and place, and from a document store only if no other tenant wrote there since. -/
theorem created_gives_own {around : Surroundings} {settings : Mapping}
    {begin after : Privileged Services} (hbegin : Target.callerStore.Holds [] begin.state)
    (hcreate : create around settings begin = (.ok client, after))
    (hmulti : Setting.isOn (settings.getText Setting.multiTenancy) = true)
    (hfield : if client.kind = .keyValue
      then settings.getText Setting.tenantField ≠ .text Item.rangeKey
      else (settings.getText Setting.tenantField).truthy = true)
    (htenants : NameTenants events) (index id : Value) {t : String} (ht : t ≠ "") :
    client.GivesOwn after.state events index id t := by
  have hcreated := created_of_create hbegin hcreate
  rw [← hcreated.multiTenancy_eq] at hmulti
  rw [← hcreated.tenantField_eq] at hfield
  rcases hcreated.startsEmpty with ⟨target, htarget, hempty⟩ |
    ⟨region, search, field, hdelegate, hempty⟩
  · have hkind : client.kind ≠ .keyValue := kind_of_target htarget
    rw [if_neg hkind] at hfield
    exact givesOwn_of_target htarget hmulti hfield hempty htenants index id t
  · have hkind : client.kind = .keyValue := by rw [Client.kind, hdelegate]; rfl
    rw [if_pos hkind, Client.tenantField, hdelegate] at hfield
    exact givesOwn_of_table hdelegate hmulti hfield hempty htenants index id ht

/-- Two tenants write to one place of a table, and each gets what is its own. -/
theorem created_gives_own_of_two :
    let begin : Privileged Services := ⟨false, {}⟩
    let around : Surroundings := { sources := [{ method := "env", accessKey := some "key" }] }
    let settings : Mapping :=
      [(.text "multi-tenancy", .text "true"), (.text "metadata-type", .text "keyvalue"),
        (.text "endpoint", .text "https://h"), (.text "region", .text "eu-west-1"),
        (.text "service-name", .text "es")]
    let events : List (Event Operation) :=
      [.perform (.put ⟨.text "i", .text "d", .int 1, .text "A"⟩),
        .perform (.put ⟨.text "i", .text "d", .int 2, .text "B"⟩)]
    ∃ client, (create around settings begin).1 = .ok client ∧
      (client.get (.text "i") (.text "d") (.text "A")
        (client.after (create around settings begin).2.state events)).1 = .ok (.int 1) ∧
      client.GivesOwn (create around settings begin).2.state events
        (.text "i") (.text "d") "A" := by
  intro begin around settings events
  let transport : Transport :=
    ⟨.text "https://h", ⟨.https, "h", 443⟩, .signing ⟨⟨0⟩⟩ (.text "eu-west-1") (.text "es"), none,
      20, true⟩
  let client : Client := ⟨.table (.text "eu-west-1") ⟨transport, .null⟩ .null, true⟩
  have hclient : (create around settings begin).1 = .ok client := by decide +kernel
  have hbegin : Target.callerStore.Holds [] begin.state := by
    rintro service ⟨⟩
  have htenants : NameTenants events := by
    intro operation hoperation
    rcases List.mem_cons.mp hoperation with hfirst | hsecond
    · obtain rfl := Event.perform.inj hfirst
      exact ⟨"A", rfl, by decide⟩
    · obtain rfl := Event.perform.inj (List.mem_singleton.mp hsecond)
      exact ⟨"B", rfl, by decide⟩
  have hcreate : create around settings begin = (.ok client, (create around settings begin).2) := by
    generalize create around settings begin = outcome at hclient ⊢
    exact Prod.ext hclient rfl
  have hmulti : Setting.isOn (Mapping.getText settings Setting.multiTenancy) = true := by
    decide +kernel
  have hfield : if client.kind = .keyValue
      then Mapping.getText settings Setting.tenantField ≠ .text Item.rangeKey
      else (Mapping.getText settings Setting.tenantField).truthy = true := by decide +kernel
  have hown := created_gives_own hbegin hcreate hmulti hfield htenants (.text "i") (.text "d")
    (show "A" ≠ "" by decide)
  exact ⟨client, hclient, by decide +kernel, hown⟩

end Client
end Metastore
