import Metastore.Proofs.Client.Building
import Metastore.Proofs.Client.Commands

/-!
# Creating clients that sign

A client of a managed service is created with a chain of credentials that nothing has used, and all of its
requests are signed with the credentials of that chain (`Client.signed_of_create`). Where it cannot be
created, no other chain was made, and none was used (`Client.failedUnused_of_create`).
-/

namespace Metastore

open Credentials (ChainRef Deferred)
open Services (Wired)

namespace Services

/-- The credentials of the chain that is made next. -/
def nextCredentials (s : Services) : Deferred := ⟨⟨s.chains.length⟩⟩

/-- Whether one chain of credentials was made since before, which nothing has used, and none was used that
was there. -/
def HasNewChain (around : Surroundings) (before s : Services) : Prop :=
  s.chains = before.chains ++ [{ sources := around.sources }]

variable {around : Surroundings} {before s : Services} {credentials : Deferred}
  {region serviceName : Value} {transport : Transport}

lemma HasNewChain.chainOf?_eq (h : HasNewChain around before s) :
    s.chainOf? before.nextCredentials = some { sources := around.sources } := by
  rw [chainOf?, nextCredentials, h]
  simp

lemma wired_of_new (h : s.cluster = some { transport })
    (hsigns : transport.Signs credentials region serviceName) :
    Wired credentials region serviceName s .cluster := by
  rw [Wired, h, Option.map_some, hsigns.authentication_eq]

end Services

open Services (HasNewChain)

namespace Client

variable {around : Surroundings} {kind : Value} {read : BackendSettings} {settings : Mapping}
  {begin between after : Privileged Services} {chain : ChainRef} {transport : Transport}

/-- The search cluster is connected to with the credentials of the new chain. -/
lemma hasNewChain_of_searching
    (h : Delegate.Searching (openChain around) read begin chain transport between) :
    HasNewChain around begin.state between.state ∧
      transport.Signs begin.state.nextCredentials read.region read.serviceName ∧
      chain.credentials = begin.state.nextCredentials := by
  obtain ⟨message, hopened⟩ := h.opened
  obtain ⟨hchain, rfl⟩ := Prod.mk.inj hopened
  obtain rfl := Except.ok.inj hchain
  exact ⟨rfl, h.signs, rfl⟩

/-- Whether creating a client failed for another reason than credentials, and nothing used a chain. -/
structure FailedUnused (around : Surroundings) (before : Services) (problem : Problem) (s : Services) :
    Prop where
  isAuth_eq : problem.isAuth = false
  chains_eq : s.chains = before.chains ∨ HasNewChain around before s

/-- If a client of a managed service cannot be created, then not for want of credentials, unless building
the client of the table service failed for that. -/
lemma failedUnused_of_create {backend : Backend}
    (hkind : Backend.ofSetting (settings.getText Setting.kind) = .ok backend)
    (hsigned : backend.IsSigned)
    (hbuild : ∀ region problem, around.buildTable region = .error problem → problem.isAuth = false)
    {problem : Problem} (h : create around settings begin = (.error problem, after)) :
    FailedUnused around begin.state problem after.state := by
  have hcreating := creating_createOpening (openChain around) around settings begin
  rw [← create, h] at hcreating
  cases hcreating with
  | unread problem hread =>
    rw [ofMapping_of_kind hkind] at hread
    cases hread
  | failed problem read after hread hmaking =>
    rw [ofMapping_of_kind hkind] at hread
    obtain rfl := Except.ok.inj hread
    cases hmaking with
    | refused problem notices hbackend hnotices hproblem => exact ⟨hproblem hsigned, .inl rfl⟩
    | unopened problem message after hbackend hopening => cases hopening
    | unsearched problem message chain between hbackend hopening hproblem =>
      obtain ⟨-, rfl⟩ := Prod.mk.inj hopening
      exact ⟨hproblem, .inr rfl⟩
    | closed problem chain transport between hbackend hsearching hbuilding hordinary =>
      exact ⟨hbuild _ _ hbuilding, .inr (hasNewChain_of_searching hsearching).1⟩
    | interrupted problem chain transport between hbackend hsearching hbuilding hordinary =>
      exact ⟨hbuild _ _ hbuilding, .inr (hasNewChain_of_searching hsearching).1⟩

/-- What is promised of a client that signs its requests and is created for settings. -/
structure Signed (around : Surroundings) (settings : Mapping) (before : Services) (client : Client)
    (s : Services) : Prop where
  newChain : HasNewChain around before s
  isWired : client.IsWired before.nextCredentials (settings.getText Setting.region)
    (settings.getText Setting.serviceName) s
  usesField : client.UsesField (settings.getText Setting.tenantField)
  unasked : Backend.ofSetting (settings.getText Setting.kind) = .ok .keyValue →
    client.kind = .keyValue ∧ ∀ remote, s.received remote = []

/-- A client of a managed service is created with a chain that nothing has used, and its requests are
signed with the credentials of that chain, as its settings say. -/
lemma signed_of_create {backend : Backend} {client : Client}
    (hkind : Backend.ofSetting (settings.getText Setting.kind) = .ok backend)
    (hsigned : backend.IsSigned) (h : create around settings begin = (.ok client, after)) :
    Signed around settings begin.state client after.state := by
  obtain ⟨read, hread, hmaking, -⟩ := making_of_createOpening h
  rw [ofMapping_of_kind hkind] at hread
  obtain rfl := Except.ok.inj hread
  have husesField := usesField_of_making hmaking
  obtain ⟨delegate, multiTenancy⟩ := client
  cases hmaking with
  | onCallerStore hbackend =>
    obtain rfl : backend = .local := hbackend
    rcases hsigned with hsigned | hsigned <;> cases hsigned
  | remote transport notices hbackend hnotices htransport hbuilt =>
    obtain rfl : backend = .remote := hbackend
    rcases hsigned with hsigned | hsigned <;> cases hsigned
  | cloud chain transport between hbackend hsearching =>
    obtain ⟨hnew, hsigns, -⟩ := hasNewChain_of_searching hsearching
    refine ⟨hnew, Services.wired_of_new rfl hsigns, husesField, fun hother => ?_⟩
    obtain rfl : backend = .cloud := hbackend
    rw [hkind] at hother
    cases hother
  | keyValue chain transport between hbackend hsearching =>
    obtain ⟨hnew, hsigns, hchain⟩ := hasNewChain_of_searching hsearching
    refine ⟨hnew, ⟨?_, Services.wired_of_new rfl hsigns⟩, husesField, fun _ => ⟨rfl, ?_⟩⟩
    · rw [← hchain]
      rfl
    · intro remote
      cases remote <;> rfl

end Client
end Metastore
