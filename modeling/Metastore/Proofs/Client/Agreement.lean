import Metastore.Proofs.Client.Isolation
import Metastore.Proofs.Client.Refinement

/-!
# Document stores and tables agree

A client on a document store and a client on a table that are run with the same operations give the
same answers, as long as no place is written for two tenants: both read the last write to the place,
and show it to the tenant for whom it was made (`backends_agree`).
-/

namespace Metastore.Client

open Services (TableHolds tableAccess)

variable {client documents items : Client} {target : Target} {region : Value}
  {search : ClusterBackend} {start startD startI : Services} {events : List (Event Operation)}

/-- Whether no place is written for two tenants. -/
def OneOwner (events : List (Event Operation)) : Prop :=
  ∀ write ∈ asked events, ∀ other ∈ asked events,
    write.index = other.index → write.id = other.id → write.tenant = other.tenant

/-- The write that a tenant is to see at a place: the last one, if it was made for this tenant. -/
def visible (client : Client) (writes : List Write) (index id tenant : Value) : Option Write :=
  (lastWrite (Write.isAt index id) writes).filter fun write =>
    decide (client.effectiveTenant write.tenant = client.effectiveTenant tenant)

/-- Where a place has one owner, the last write for a tenant is the last write of all. -/
lemma lastWrite_isFor {writes : List Write}
    (hone : ∀ write ∈ writes, ∀ other ∈ writes, write.index = other.index → write.id = other.id →
      client.effectiveTenant write.tenant = client.effectiveTenant other.tenant)
    (index id tenant : Value) :
    lastWrite (Write.isFor client index (client.effectiveTenant tenant) id) writes =
      client.visible writes index id tenant := by
  rw [visible]
  cases hlast : lastWrite (Write.isAt index id) writes with
  | none =>
    rw [Option.filter_none, lastWrite, List.find?_eq_none]
    rw [lastWrite, List.find?_eq_none] at hlast
    intro write hwrite hfor
    have hat := hlast write hwrite
    simp only [Write.isFor, decide_eq_true_eq] at hfor
    simp [Write.isAt, hfor.1, hfor.2.2] at hat
  | some last =>
    have hat : last.index = index ∧ last.id = id := by
      simpa [Write.isAt] using property_of_lastWrite hlast
    by_cases howner : client.effectiveTenant last.tenant = client.effectiveTenant tenant
    · rw [Option.filter_some_pos (by simpa using howner)]
      refine lastWrite_of_stronger hlast (by simp [Write.isFor, hat, howner]) ?_
      intro write hfor
      simp only [Write.isFor, decide_eq_true_eq] at hfor
      simp [Write.isAt, hfor.1, hfor.2.2]
    · rw [Option.filter_some_neg (by simpa using howner), lastWrite, List.find?_eq_none]
      intro write hwrite hfor
      simp only [Write.isFor, decide_eq_true_eq] at hfor
      apply howner
      rw [← hfor.2.1]
      exact hone last (mem_of_lastWrite hlast) write (List.mem_reverse.mp hwrite)
        (hat.1.trans hfor.1.symm) (hat.2.trans hfor.2.2.symm)

/-- Named tenants are kept apart. -/
lemma tenant_eq_of_effective {tenant other : Value}
    (htenant : client.multiTenancy = false ∨ ∃ t, tenant = .text t ∧ t ≠ "")
    (hother : client.multiTenancy = false ∨ ∃ t, other = .text t ∧ t ≠ "")
    (h : client.effectiveTenant tenant = client.effectiveTenant other) :
    client.multiTenancy = false ∨ tenant = other := by
  cases hmulti : client.multiTenancy with
  | false => exact .inl rfl
  | true =>
    obtain ⟨t, rfl, ht⟩ := htenant.resolve_left (by simp [hmulti])
    obtain ⟨u, rfl, hu⟩ := hother.resolve_left (by simp [hmulti])
    rw [effectiveTenant_text hmulti ht, effectiveTenant_text hmulti hu] at h
    exact .inr h

/-! ### Document stores -/

/-- Without multi-tenancy a mapping is stored as it is, and otherwise with the field set. -/
lemma stored_map {f : String} (hfield : client.tenantField = .text f) (hf : f ≠ "") {write : Write}
    {entries : Mapping} (hdocument : write.document = .map entries)
    (htenant : client.multiTenancy = false ∨ ∃ t, write.tenant = .text t) :
    client.stored write = some (.map (if client.multiTenancy then entries.setText f write.tenant
      else entries)) := by
  rw [stored, hfield, hdocument, Client.tenant]
  rcases htenant with hmulti | ⟨t, ht⟩
  · rw [hmulti]
    simp [Tenancy.stamp, Tenancy.applies, Value.isNull, Value.toMapping, Except.toOption]
  · cases hmulti : client.multiTenancy with
    | false => simp [Tenancy.stamp, Tenancy.applies, Value.isNull, Value.toMapping, Except.toOption]
    | true =>
      rw [if_pos rfl, if_pos rfl, ht, Tenancy.stamp_map hf]
      rfl

/-- What is asked of a write: it is of a mapping, and for a named tenant if tenants matter. -/
def Write.IsProper (client : Client) (write : Write) : Prop :=
  (∃ entries, write.document = .map entries) ∧
    (client.multiTenancy = false ∨ ∃ t, write.tenant = .text t ∧ t ≠ "")

lemma visible_of_not_multiTenancy (hmulti : client.multiTenancy = false) (writes : List Write)
    (index id tenant : Value) :
    client.visible writes index id tenant = lastWrite (Write.isAt index id) writes := by
  rw [visible]
  cases lastWrite (Write.isAt index id) writes <;> simp [effectiveTenant, hmulti]

/-- A reply shows the visible write. -/
lemma documentOf_visible {f : String} (hfield : client.tenantField = .text f) (hf : f ≠ "")
    {kept : Documents} {history : List Write} (hrecorded : client.Recorded kept history)
    (hproper : ∀ write ∈ history, write.IsProper client) (index id : Value) {tenant : Value}
    (htenant : client.multiTenancy = false ∨ ∃ t, tenant = .text t ∧ t ≠ "") :
    Target.documentOf client.tenantField (client.tenant tenant)
        (Target.replyTo kept index id) =
      .ok (((client.visible history index id tenant).bind client.stored).getD .null) := by
  cases hmulti : client.multiTenancy with
  | false =>
    have hnull : client.tenant tenant = .null := by
      rw [Client.tenant, hmulti, if_neg Bool.false_ne_true]
    have hget := hrecorded index id
    rw [visible_of_not_multiTenancy hmulti, hnull, ← hget]
    cases hfound : kept.get? index id with
    | none => exact Target.documentOf_missing hfound client.tenantField .null
    | some document =>
      rw [hfound] at hget
      obtain ⟨write, hlast, hstored⟩ := Option.bind_eq_some_iff.mp hget.symm
      obtain ⟨⟨entries, hentries⟩, -⟩ := hproper write (mem_of_lastWrite hlast)
      rw [stored_map hfield hf hentries (.inl hmulti), hmulti] at hstored
      obtain rfl := Option.some.inj hstored
      have happlies : Tenancy.applies client.tenantField .null = false := by
        simp [Tenancy.applies, Value.isNull]
      rw [Target.documentOf_found hfound, happlies]
      by_cases hempty : entries = []
      · simp [hempty, Value.orElse, Value.truthy]
        rfl
      · simp [hempty, Value.orElse, Value.truthy]
        rfl
  | true =>
    obtain ⟨t, rfl, ht⟩ := htenant.resolve_left (by simp [hmulti])
    have htexts : ∀ write ∈ history, ∃ t, write.tenant = .text t ∧ t ≠ "" :=
      fun write hwrite => (hproper write hwrite).2.resolve_left (by simp [hmulti])
    rw [tenant_of_multiTenancy hmulti, documentOf_recorded hmulti (by simp [hfield, Value.truthy, hf])
      hrecorded (fun write hwrite => (htexts write hwrite).imp fun _ h => h.1), visible]
    cases hlast : lastWrite (Write.isAt index id) history with
    | none => rfl
    | some write =>
      obtain ⟨owner, howner, hnonempty⟩ := htexts write (mem_of_lastWrite hlast)
      rw [Option.map_some, Option.getD_some, shownTo, howner]
      by_cases hsame : owner = t
      · rw [if_pos (by rw [hsame]), Option.filter_some_pos (by simp [howner, hsame]),
          Option.bind_some]
      · have hother :
            client.effectiveTenant write.tenant ≠ client.effectiveTenant (.text t) := by
          rw [howner, effectiveTenant_text hmulti ht, effectiveTenant_text hmulti hnonempty]
          simpa using hsame
        rw [if_neg (by simpa using hsame), Option.filter_some_neg (by simpa using hother)]
        rfl

/-- Where the store can be reached all along, every tenant is shown the visible write. -/
lemma get_visible {f : String} (htarget : client.delegate.target? = some target)
    (hfield : client.tenantField = .text f) (hf : f ≠ "") (hstart : target.Holds [] start)
    (hreach : Services.Reachable target.access (Operation.perform client) start events)
    (hhistory : client.history start events = asked events)
    (hproper : ∀ write ∈ asked events, write.IsProper client) (index id : Value) {tenant : Value}
    (htenant : client.multiTenancy = false ∨ ∃ t, tenant = .text t ∧ t ≠ "") :
    (client.get index id tenant (client.after start events)).1 =
      .ok (((client.visible (asked events) index id tenant).bind client.stored).getD .null) := by
  obtain ⟨kept, hs, haccess, hrecorded⟩ := recorded_after htarget hstart events
  obtain ⟨result, after, hget, -, -, hresult⟩ := get_cases htarget hs index id tenant
  rw [hhistory] at hrecorded
  rw [hget]
  rcases hresult with hiff | ⟨-, hnot⟩
  · exact (hiff _).mpr (documentOf_visible hfield hf hrecorded hproper index id htenant)
  · exact absurd (hreach.ready haccess) hnot

/-! ### Both -/

/-- Clients that agree on multi-tenancy let a tenant see the same writes. -/
lemma visible_congr (hmulti : documents.multiTenancy = items.multiTenancy) (writes : List Write)
    (index id tenant : Value) :
    documents.visible writes index id tenant = items.visible writes index id tenant := by
  have heffective : documents.effectiveTenant = items.effectiveTenant := by
    funext tenant
    rw [effectiveTenant, effectiveTenant, hmulti]
  rw [visible, visible, heffective]

/-- Setting the field in sorted data, or in the data, comes to the same. -/
lemma exists_sorted_set {entries : Mapping} (hplain : (Value.map entries).Plain) (f : String)
    {multi : Bool} {tenant : Value} (htenant : multi = false ∨ ∃ t, tenant = .text t) :
    ∃ ordered : Mapping, (Value.map entries).sorted = .map ordered ∧
      (Value.map (if multi then ordered.setText f tenant else ordered)).same
        (.map (if multi then entries.setText f tenant else entries)) = true := by
  cases multi with
  | false =>
    refine ⟨_, Value.sorted_map entries, ?_⟩
    simpa only [Bool.false_eq_true, if_false, Value.sorted_map] using Value.same_sorted hplain
  | true =>
    obtain ⟨t, rfl⟩ := htenant.resolve_left (by simp)
    exact Value.same_setText_sorted hplain f t

/-- Where every operation names a tenant, so does every write. -/
lemma proper_of_asked {Document : Value → Prop}
    (hops : ∀ operation, .perform operation ∈ events → operation.Within (fun _ => True)
      (fun document => (∃ entries, document = .map entries) ∧ Document document) (fun _ => True))
    (htenants : client.multiTenancy = false ∨ NameTenants events) {write : Write}
    (hwrite : write ∈ asked events) : write.IsProper client := by
  obtain ⟨operation, hmem, hasked⟩ := exists_operation_of_asked hwrite
  obtain ⟨-, ⟨hmap, -⟩, -⟩ := (hops operation hmem).of_mem hasked
  refine ⟨hmap, htenants.imp_right fun hnamed => ?_⟩
  rw [Operation.tenant_of_writes hasked]
  exact hnamed operation hmem

/-- Two clients with the same tenant field, one on a document store and one on a table that can be
reached all along, are run with the same operations on plain mappings. Unless tenants are not passed
on, each operation names a tenant and no place is written for two of them. Then both find a document
or neither does, and setting the field of the item's document to the tenant gives the one that is kept;
where tenants are not passed on, the two are equal as they are. -/
theorem backends_agree {f : String} (hdocuments : documents.delegate.target? = some target)
    (hitems : items.delegate = .table region search (.text f))
    (hfield : documents.tenantField = .text f)
    (hmulti : documents.multiTenancy = items.multiTenancy) (hf : f ≠ "")
    (hrange : f ≠ Item.rangeKey) (hsource : f ≠ sourceAttribute) (hstartD : target.Holds [] startD)
    (hstartI : TableHolds [] startI)
    (hreachD : Services.Reachable target.access (Operation.perform documents) startD events)
    (hreachI : Services.Reachable tableAccess (Operation.perform items) startI events)
    (hops : ∀ operation, .perform operation ∈ events → operation.Within (fun _ => True)
      (fun document => (∃ entries, document = .map entries) ∧ document.Plain) (fun _ => True))
    (htenants : items.multiTenancy = false ∨ NameTenants events ∧ OneOwner events)
    (index id tenant : Value)
    (htenant : items.multiTenancy = false ∨ ∃ t, tenant = .text t ∧ t ≠ "") :
    ∃ kept item, (documents.get index id tenant (documents.after startD events)).1 = .ok kept ∧
      (items.get index id tenant (items.after startI events)).1 = .ok item ∧
      (kept = .null ↔ item = .null) ∧
      (item ≠ .null → ∃ entries : Mapping, item = .map entries ∧
        (Value.map (if items.multiTenancy then entries.setText f tenant else entries)).same kept =
          true) := by
  have hhash : Item.IsHash (Item.hashKey items.tenantField) := by
    rw [Client.tenantField, hitems]
    exact Item.isHash_hashKey (.inr ⟨f, rfl, hrange, hsource⟩)
  have hhistory : documents.history startD events = asked events := by
    refine history_eq_asked hdocuments hstartD ?_ hops hreachD
    rintro document tenant ⟨⟨old, rfl⟩, -⟩ -
    rw [hfield]
    exact Tenancy.exists_stamp rfl old _
  have hproper : ∀ write ∈ asked events, write.IsProper documents := fun write hwrite =>
    proper_of_asked hops (by rw [hmulti]; exact htenants.imp_right fun h => h.1) hwrite
  have htenant' : documents.multiTenancy = false ∨ ∃ t, tenant = .text t ∧ t ≠ "" := by
    rwa [hmulti]
  have hkept := get_visible hdocuments hfield hf hstartD hreachD hhistory hproper index id htenant'
  have hitem := get_mapped hitems hhash hstartI hreachI
    (fun operation hmem => (hops operation hmem).mono fun _ h => h.2) index id tenant
  have hone : ∀ write ∈ asked events, ∀ other ∈ asked events, write.index = other.index →
      write.id = other.id →
      items.effectiveTenant write.tenant = items.effectiveTenant other.tenant := by
    intro write hwrite other hother hindex hid
    rcases htenants with hoff | ⟨-, howner⟩
    · simp [effectiveTenant, hoff]
    · rw [howner write hwrite other hother hindex hid]
  rw [visible_congr hmulti] at hkept
  rw [mapped, lastWrite_isFor hone] at hitem
  refine ⟨_, _, hkept, hitem, ?_⟩
  cases hvisible : items.visible (asked events) index id tenant with
  | none => exact ⟨by simp, fun hne => absurd rfl hne⟩
  | some write =>
    obtain ⟨hlast, howner⟩ := Option.filter_eq_some_iff.mp hvisible
    obtain ⟨operation, hmem, hasked⟩ := exists_operation_of_asked (mem_of_lastWrite hlast)
    obtain ⟨-, ⟨⟨entries, hentries⟩, hplain⟩, -⟩ := (hops operation hmem).of_mem hasked
    obtain ⟨-, hnamed⟩ := hproper write (mem_of_lastWrite hlast)
    rw [hentries] at hplain
    have hstored := stored_map hfield hf hentries (hnamed.imp_right fun h => h.imp fun _ ht => ht.1)
    rw [hmulti] at hstored hnamed
    have hsame : items.multiTenancy = false ∨ write.tenant = tenant :=
      tenant_eq_of_effective hnamed htenant (by simpa using howner)
    obtain ⟨ordered, hsorted, hset⟩ := exists_sorted_set hplain f
      (htenant.imp_right fun h => h.imp fun _ ht => ht.1)
    simp only [Option.bind_some, Option.map_some, Option.getD_some, hstored, hentries, hsorted]
    refine ⟨by simp, fun _ => ⟨ordered, rfl, ?_⟩⟩
    rcases hsame with hoff | rfl
    · simpa [hoff] using hset
    · exact hset

/-- A tenant field that a writer sets is replaced in one store and kept in the other; with the field
set to the tenant, the two documents are equal again, whatever the order of their entries. -/
theorem backends_agree_forged :
    let documents : Client :=
      { delegate := .callerStore .null (.text "tenant"), multiTenancy := true }
    let items : Client := {
      delegate := .table (.text "eu") ⟨⟨.null, ⟨.https, "h", 443⟩, .anonymous, none, 20, false⟩,
        .text "tenant"⟩ (.text "tenant")
      multiTenancy := true }
    let startD : Services := { callerStore := some { contents := [] } }
    let startI : Services := {
      chains := [{ sources := [{ method := "env", accessKey := some "key" }] }]
      table := some { region := .text "eu", credentials := ⟨⟨0⟩⟩, builtElevated := false } }
    let forged : Mapping := [(.text "x", .int 1), (.text "tenant", .text "B")]
    let events : List (Event Operation) :=
      [.perform (.bulk (.text "i") (.list [.list [.text "d", .map forged]]) (.text "A"))]
    ∃ kept item : Mapping,
      (documents.get (.text "i") (.text "d") (.text "A") (documents.after startD events)).1 =
        .ok (.map kept) ∧
      (items.get (.text "i") (.text "d") (.text "A") (items.after startI events)).1 =
        .ok (.map item) ∧
      kept.getText "tenant" = .text "A" ∧ item.getText "tenant" = .text "B" ∧
      (Value.map (item.setText "tenant" (.text "A"))).same (.map kept) = true := by
  intro documents items startD startI forged events
  have hstartD : Target.callerStore.Holds [] startD := by
    rintro service ⟨⟩
    exact ⟨rfl, rfl⟩
  have hstartI : TableHolds [] startI := by
    rintro table ⟨⟩
    exact ⟨rfl, rfl⟩
  have hreachD :
      Services.Reachable Target.callerStore.access (Operation.perform documents) startD events :=
    ⟨none, rfl, fun credentials h => by cases h⟩
  have hreachI : Services.Reachable tableAccess (Operation.perform items) startI events := by
    refine ⟨some ⟨⟨0⟩⟩, rfl, ?_⟩
    rintro credentials ⟨⟩ before hbefore
    simp only [events, List.prefix_cons_iff, List.prefix_nil] at hbefore
    rcases hbefore with rfl | ⟨_, rfl, rfl⟩
    · exact ⟨_, rfl, _, rfl⟩
    · exact ⟨_, rfl, _, rfl⟩
  have hplain : Value.Plain (.map forged) := by
    refine .map ?_ ?_ (by decide)
    · intro e he
      rcases List.mem_cons.mp he with rfl | hlast
      · exact ⟨"x", rfl⟩
      · obtain rfl := List.mem_singleton.mp hlast
        exact ⟨"tenant", rfl⟩
    · intro e he
      rcases List.mem_cons.mp he with rfl | hlast
      · exact .int 1
      · obtain rfl := List.mem_singleton.mp hlast
        exact .text "B"
  have hops : ∀ operation, .perform operation ∈ events → operation.Within (fun _ => True)
      (fun document => (∃ entries, document = .map entries) ∧ document.Plain) (fun _ => True) := by
    intro operation hoperation
    obtain rfl := Event.perform.inj (List.mem_singleton.mp hoperation)
    refine ⟨⟨_, rfl, fun element helement => ?_⟩, trivial⟩
    obtain rfl := List.mem_singleton.mp helement
    exact ⟨_, _, rfl, trivial, ⟨_, rfl⟩, hplain⟩
  have htenants : NameTenants events ∧ OneOwner events := by
    constructor
    · intro operation hoperation
      obtain rfl := Event.perform.inj (List.mem_singleton.mp hoperation)
      exact ⟨"A", rfl, by decide⟩
    · intro write hwrite other hother _ _
      obtain rfl := List.mem_singleton.mp hwrite
      obtain rfl := List.mem_singleton.mp hother
      rfl
  obtain ⟨kept, item, hkept, hitem, -, hsame⟩ := backends_agree
    (show documents.delegate.target? = some .callerStore from rfl)
    (show items.delegate = .table _ _ _ from rfl) rfl rfl (by decide) (by decide) (by decide)
    hstartD hstartI hreachD hreachI hops (.inr htenants) (.text "i") (.text "d") (.text "A")
    (.inr ⟨"A", rfl, by decide⟩)
  have hkept' : (documents.get (.text "i") (.text "d") (.text "A")
      (documents.after startD events)).1 =
      .ok (.map [(.text "x", .int 1), (.text "tenant", .text "A")]) := by decide +kernel
  have hitem' : (items.get (.text "i") (.text "d") (.text "A") (items.after startI events)).1 =
      .ok (.map [(.text "tenant", .text "B"), (.text "x", .int 1)]) := by cbv
  obtain rfl := Except.ok.inj (hkept.symm.trans hkept')
  obtain rfl := Except.ok.inj (hitem.symm.trans hitem')
  obtain ⟨entries, hentries, hequal⟩ := hsame (by simp)
  obtain rfl := Value.map.inj hentries
  exact ⟨_, _, hkept, hitem, by decide, by decide, hequal⟩

end Metastore.Client
