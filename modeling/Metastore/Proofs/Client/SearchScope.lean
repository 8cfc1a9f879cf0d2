import Metastore.Proofs.Client.Building
import Metastore.Proofs.Client.Refusals
import Metastore.Proofs.Client.SharedCache
import Metastore.Proofs.Tenancy.Narrowing

/-!
# Whose documents are searched

A client that keeps documents in a table keeps a tenant under the tenant field, or under an attribute
of its own where no such field is set. Its searches are narrowed to the tenant by the tenant field only
(`Client.search_scoped_by_field`): where none is set, they go out as they are, and find the documents of
all tenants (`Client.search_unscoped_without_field`).
-/

namespace Metastore

open Services (Wired)

/-- Whether a search finds only documents that have a value in a field. -/
def Tenancy.Requires (body : Mapping) (field value : Value) : Prop :=
  ∃ query conditions : Mapping, ∃ filters : List Value,
    body.getText? "query" = some (.map query) ∧ query.getText? "bool" = some (.map conditions) ∧
      conditions.getText? "filter" = some (.list filters) ∧
      .map [(.text "term", .map [(field, value)])] ∈ filters

namespace Tenancy

variable {field tenant : Value}

/-- Searches are narrowed by a field that is set. -/
lemma scope_of_truthy (hfield : field.truthy = true) (hkey : field.isKey = true)
    (htenant : tenant ≠ .null) (body : Mapping) :
    ∃ sent, scope (.map body) field tenant = .ok sent ∧ Requires sent field tenant := by
  have happlies := applies_of_truthy hfield htenant
  exact ⟨_, scope_of_applies happlies hkey body, _, _, _, Mapping.getText?_setText _ _ _, rfl, rfl,
    List.mem_singleton_self _⟩

/-- Searches without a field to narrow them by are left as they are. -/
lemma scope_of_not_truthy (hfield : field.truthy = false) (body : Mapping) :
    scope (.map body) field tenant = .ok body := by
  have happlies : applies field tenant = false := by rw [applies, hfield, Bool.false_and]
  cases body with
  | nil => rw [scope]; show (if applies field tenant then _ else _) = _; rw [happlies]; rfl
  | cons entry rest =>
    rw [scope]; show (if applies field tenant then _ else _) = _; rw [happlies]; rfl

end Tenancy

namespace Services

/-- The requests that the search cluster received. -/
def searches (s : Services) : List DocumentRequest :=
  (s.cluster.map fun cluster => cluster.service.calls.map (·.request)).getD []

/-- A search that can be narrowed is sent once. -/
lemma searches_search {credentials : Credentials.Deferred}
    {region serviceName field index body tenant : Value} {s : Services} {narrowed : Mapping}
    (h : Wired credentials region serviceName s .cluster)
    (hscope : Tenancy.scope body field tenant = .ok narrowed) :
    (Target.cluster.search field index body tenant s).2.searches =
      s.searches ++ [.search index narrowed] := by
  obtain ⟨cluster, hcluster, -⟩ := Option.map_eq_some_iff.mp h
  obtain ⟨service, hcalls, hafter⟩ := callCluster_after hcluster (.search index narrowed)
  rw [Target.search, Target.reach_bind_of_there (Client.isThere_of_wired h), lift_bind_of_ok hscope]
  show (callCluster (.search index narrowed) s).2.searches = _
  rw [hafter, searches, searches, hcluster]
  simp [hcalls]

end Services

namespace Client

/-- A client that is created for a table searches by the tenant field of its settings, and signs the
requests to both of its services. -/
lemma table_of_create {around : Surroundings} {settings : Mapping} {begin after : Privileged Services}
    {client : Client} (hkind : Backend.ofSetting (settings.getText Setting.kind) = .ok .keyValue)
    (hcreate : create around settings begin = (.ok client, after)) :
    ∃ transport, client =
        ⟨.table (settings.getText Setting.region)
          ⟨transport, settings.getText Setting.tenantField⟩ (settings.getText Setting.tenantField),
          Setting.isOn (settings.getText Setting.multiTenancy)⟩ ∧
      client.IsWired begin.state.nextCredentials (settings.getText Setting.region)
        (settings.getText Setting.serviceName) after.state := by
  have hwired := (signed_of_create hkind (.inr rfl) hcreate).isWired
  obtain ⟨read, hread, hmaking, hmulti⟩ := making_of_createOpening hcreate
  rw [ofMapping_of_kind hkind] at hread
  obtain rfl := Except.ok.inj hread
  obtain ⟨delegate, multiTenancy⟩ := client
  obtain rfl : multiTenancy = (readAs .keyValue settings).multiTenancy := hmulti
  cases hmaking with
  | onCallerStore hbackend => cases hbackend
  | remote transport notices hbackend hnotices htransport hbuilt => cases hbackend
  | cloud chain transport between hbackend hsearching => cases hbackend
  | keyValue chain transport between hbackend hsearching => exact ⟨transport, rfl, hwired⟩

/-- Take a client for a table with multi-tenancy, created for settings that ask for one, and any run of
commands, of the passing of time and of changes of the sources. A search for a tenant is sent to the
search cluster, once. If a tenant field is set, the search asks for documents that have the tenant
under the attribute that tenants are kept under; if none is set, it is sent as it is. -/
theorem search_scoped_by_field {around : Surroundings} {settings : Mapping}
    {begin after : Privileged Services} {client : Client}
    (hkind : Backend.ofSetting (settings.getText Setting.kind) = .ok .keyValue)
    (hmulti : Setting.isOn (settings.getText Setting.multiTenancy) = true)
    (hkey : (settings.getText Setting.tenantField).isKey = true)
    (hcreate : create around settings begin = (.ok client, after))
    (events : List (Event Command)) (index : Value) (body : Mapping) {tenant : String} :
    let field := settings.getText Setting.tenantField
    let s := after.state.run (Command.perform client) events
    ∃ sent, (Command.perform client (.search index (.map body) (.text tenant)) s).searches =
        s.searches ++ [.search index sent] ∧
      (field.truthy = true → Tenancy.Requires sent (Item.hashKey field) (.text tenant)) ∧
      (field.truthy = false → sent = body) := by
  intro field s
  obtain ⟨transport, rfl, hwired⟩ := table_of_create hkind hcreate
  have hcluster : Wired _ _ _ s .cluster := (hwired.of_traffic (traffic_run hwired events)).2
  have hsearch : (Command.perform ⟨.table (settings.getText Setting.region) ⟨transport, field⟩ field,
      Setting.isOn (settings.getText Setting.multiTenancy)⟩
        (.search index (.map body) (.text tenant)) s).searches =
      (Target.cluster.search field index (.map body) (.text tenant) s).2.searches := by
    rw [hmulti]
    rfl
  rw [hsearch]
  cases hfield : field.truthy with
  | true =>
    have htenant : Value.text tenant ≠ .null := by simp
    obtain ⟨sent, hscope, hrequires⟩ := Tenancy.scope_of_truthy hfield hkey htenant body
    refine ⟨sent, Services.searches_search hcluster hscope, fun _ => ?_,
      fun h => absurd h.symm Bool.false_ne_true⟩
    rwa [Item.hashKey, Value.orElse, if_pos hfield]
  | false =>
    have hscope : Tenancy.scope (.map body) field (.text tenant) = .ok body :=
      Tenancy.scope_of_not_truthy hfield body
    exact ⟨body, Services.searches_search hcluster hscope,
      fun h => absurd h Bool.false_ne_true, fun _ => rfl⟩

/-- With the field `owner`, a search for tenant `A` after a put asks for documents owned by `A`. -/
theorem search_scoped_by_field_owner :
    let around : Surroundings := { sources := [{ method := "env", accessKey := some "key" }] }
    let settings : Mapping :=
      [(.text "metadata-type", .text "keyvalue"), (.text "endpoint", .text "https://h"),
        (.text "region", .text "eu-west-1"), (.text "service-name", .text "es"),
        (.text "multi-tenancy", .text "true"), (.text "tenant-id-field", .text "owner")]
    let events : List (Event Command) :=
      [.perform (.operate (.put ⟨.text "i", .text "d", .map [], .text "A"⟩))]
    ∃ client, (create around settings ⟨false, {}⟩).1 = .ok client ∧ ∃ sent,
      (Command.perform client (.search (.text "i") (.map []) (.text "A"))
        ((create around settings ⟨false, {}⟩).2.state.run (Command.perform client) events)).searches =
        [.search (.text "i") sent] ∧
      Tenancy.Requires sent (.text "owner") (.text "A") := by
  intro around settings events
  let transport : Transport :=
    ⟨.text "https://h", ⟨.https, "h", 443⟩, .signing ⟨⟨0⟩⟩ (.text "eu-west-1") (.text "es"), none,
      20, true⟩
  let client : Client :=
    ⟨.table (.text "eu-west-1") ⟨transport, .text "owner"⟩ (.text "owner"), true⟩
  have hclient : (create around settings ⟨false, {}⟩).1 = .ok client := by decide +kernel
  have hcreate : create around settings ⟨false, {}⟩ =
      (.ok client, (create around settings ⟨false, {}⟩).2) := by
    generalize create around settings ⟨false, {}⟩ = outcome at hclient ⊢
    exact Prod.ext hclient rfl
  have hkind : Backend.ofSetting (Mapping.getText settings Setting.kind) = .ok .keyValue := by
    decide +kernel
  have hmulti : Setting.isOn (Mapping.getText settings Setting.multiTenancy) = true := by
    decide +kernel
  have hkey : (Mapping.getText settings Setting.tenantField).isKey = true := by decide +kernel
  have hfield : (Mapping.getText settings Setting.tenantField).truthy = true := by decide +kernel
  have hhash : Item.hashKey (Mapping.getText settings Setting.tenantField) = .text "owner" := by
    decide +kernel
  have hbefore : ((create around settings ⟨false, {}⟩).2.state.run (Command.perform client)
      events).searches = [] := by decide +kernel
  obtain ⟨sent, hsearches, hrequires, -⟩ :=
    search_scoped_by_field hkind hmulti hkey hcreate events (.text "i") []
  rw [hbefore] at hsearches
  exact ⟨client, hclient, sent, hsearches, hhash ▸ hrequires hfield⟩

/-- Without a tenant field, a search for tenant `A` is sent as it is, although tenants are kept under
an attribute. -/
theorem search_unscoped_without_field :
    let around : Surroundings := { sources := [{ method := "env", accessKey := some "key" }] }
    let settings : Mapping :=
      [(.text "metadata-type", .text "keyvalue"), (.text "multi-tenancy", .text "true"),
        (.text "endpoint", .text "https://h"), (.text "region", .text "eu-west-1"),
        (.text "service-name", .text "es")]
    let body : Mapping := [(.text "query", .map [(.text "match_all", .map [])])]
    ∃ client, (create around settings ⟨false, {}⟩).1 = .ok client ∧ client.multiTenancy = true ∧
      (Command.perform client (.search (.text "i") (.map body) (.text "A"))
        (create around settings ⟨false, {}⟩).2.state).searches = [.search (.text "i") body] ∧
      ¬ Tenancy.Requires body (Item.hashKey client.tenantField) (.text "A") := by
  intro around settings body
  let transport : Transport :=
    ⟨.text "https://h", ⟨.https, "h", 443⟩, .signing ⟨⟨0⟩⟩ (.text "eu-west-1") (.text "es"), none,
      20, true⟩
  let client : Client := ⟨.table (.text "eu-west-1") ⟨transport, .null⟩ .null, true⟩
  refine ⟨client, by decide +kernel, rfl, by decide +kernel, ?_⟩
  rintro ⟨query, conditions, filters, hquery, hbool, -⟩
  have hmatch : query = [(.text "match_all", .map [])] := by
    simpa [body, Mapping.getText?] using hquery.symm
  rw [hmatch] at hbool
  simp [Mapping.getText?] at hbool

end Client
end Metastore
