import Metastore.Proofs.Client.Building
import Metastore.Proofs.Client.Documents
import Metastore.Proofs.Client.Table

/-!
# Created clients

A client that was created has the tenant field and the multi-tenancy of its settings, and the store
that it is to work on is empty: the caller's own one if it was, and what was connected to in any
case (`Client.created_of_create`).
-/

namespace Metastore

open Services (TableHolds)

/-! ### Stores that were just connected to -/

namespace Services

variable {s : Services} {transport : Transport}

lemma holds_of_new (h : s.cluster = some { transport }) : Target.cluster.Holds [] s := by
  intro service hservice
  rw [Target.service?, h] at hservice
  obtain rfl := Option.some.inj hservice
  exact ⟨rfl, rfl⟩

lemma tableHolds_of_new {region : Value} {chain : Credentials.ChainRef}
    (h : s.table = some (tableClient region chain)) : TableHolds [] s := by
  intro table htable
  rw [h] at htable
  obtain rfl := Option.some.inj htable
  exact ⟨rfl, rfl⟩

end Services

/-! ### Delegates and clients -/

/-- Whether the store that a delegate works on is empty. -/
def Delegate.StartsEmpty (delegate : Delegate) (s : Services) : Prop :=
  (∃ target, delegate.target? = some target ∧ target.Holds [] s) ∨
    ∃ region search field, delegate = .table region search field ∧ TableHolds [] s

namespace Client

variable {opening : Setup Credentials.ChainRef} {around : Surroundings} {kind : Value}
  {read : BackendSettings} {begin after : Privileged Services} {delegate : Delegate}

lemma startsEmpty_of_making (hstart : Target.callerStore.Holds [] begin.state)
    (h : Delegate.Making opening around kind read begin (.ok delegate, after)) :
    delegate.StartsEmpty after.state := by
  cases h with
  | onCallerStore hbackend => exact .inl ⟨.callerStore, rfl, hstart⟩
  | remote transport notices hbackend hnotices htransport hbuilt =>
    exact .inl ⟨.cluster, rfl, Services.holds_of_new rfl⟩
  | cloud chain transport between hbackend hsearching =>
    exact .inl ⟨.cluster, rfl, Services.holds_of_new rfl⟩
  | keyValue chain transport between hbackend hsearching =>
    exact .inr ⟨_, _, _, rfl, Services.tableHolds_of_new rfl⟩

lemma tenantField_of_making
    (h : Delegate.Making opening around kind read begin (.ok delegate, after)) :
    delegate.tenantField = read.tenantField := by
  cases h <;> rfl

/-- What is promised of a client that is created for settings. -/
structure Created (settings : Mapping) (client : Client) (s : Services) : Prop where
  tenantField_eq : client.tenantField = settings.getText Setting.tenantField
  multiTenancy_eq : client.multiTenancy = Setting.isOn (settings.getText Setting.multiTenancy)
  startsEmpty : client.delegate.StartsEmpty s

/-- A client has what its settings say, and starts on an empty store where the caller's own store is
empty. -/
theorem created_of_create {settings : Mapping} {client : Client}
    (hstart : Target.callerStore.Holds [] begin.state)
    (h : create around settings begin = (.ok client, after)) :
    Created settings client after.state := by
  obtain ⟨read, hread, hmaking, hmulti⟩ := making_of_createOpening h
  obtain ⟨backend, -, heq⟩ := except_bind_eq_ok.mp hread
  obtain rfl := Except.ok.inj heq
  exact ⟨tenantField_of_making hmaking, hmulti, startsEmpty_of_making hstart hmaking⟩

end Client
end Metastore
