import Metastore.Proofs.Client.Building
import Metastore.Proofs.Privilege

/-!
# Building with privilege

Whatever comes of creating a client, the level of privilege is what it was, and everything that was
connected to on the way was built with the level raised, whether it is still there or not
(`Client.elevation_exactly_scoped`).
-/

namespace Metastore

open Credentials (ChainRef)

namespace Services

/-- Whether everything that was connected to since before was built with privilege. -/
structure BuiltElevated (before s : Services) : Prop where
  clusters : ∃ since : List Transport,
    s.clusters.map (·.transport) = before.clusters.map (·.transport) ++ since ∧
      ∀ transport ∈ since, transport.builtElevated = true
  tables : ∃ since : List TableClient, s.tables = before.tables ++ since ∧
    ∀ table ∈ since, table.builtElevated = true

variable {before s : Services} {transport : Transport}

/-- Nothing was connected to but a search cluster, if any, and a table service, if any, and both were built
with privilege. -/
lemma SameConnections.builtElevated (h : SameConnections before s) : BuiltElevated before s where
  clusters := ⟨[], by simp [h.clusters_eq], by simp⟩
  tables := ⟨[], by simp [h.tables_eq], by simp⟩

lemma SameConnections.builtElevated_withCluster (h : SameConnections before s)
    (hbuilt : transport.builtElevated = true) : BuiltElevated before (s.withCluster transport) where
  clusters := ⟨[transport], by simp [h.clusters_eq], by simpa using hbuilt⟩
  tables := ⟨[], by simp [h.tables_eq], by simp⟩

/-- A search cluster that is given up was connected to all the same. -/
lemma BuiltElevated.givingUp (h : BuiltElevated before (s.withCluster transport)) :
    BuiltElevated before ((s.withCluster transport).givingUp transport) where
  clusters := by
    obtain ⟨since, hclusters, hsince⟩ := h.clusters
    refine ⟨since, Eq.trans ?_ hclusters, hsince⟩
    simp [Cluster.closedOnce]
  tables := h.tables

lemma BuiltElevated.withTable (h : BuiltElevated before s) (region : Value) (chain : ChainRef) :
    BuiltElevated before (s.withTable (tableClient region chain)) where
  clusters := h.clusters
  tables := by
    obtain ⟨since, htables, hsince⟩ := h.tables
    refine ⟨since ++ [tableClient region chain], ?_, ?_⟩
    · rw [tables_withTable, htables, List.append_assoc]
    · intro table htable
      rcases List.mem_append.mp htable with hearlier | hnew
      · exact hsince table hearlier
      · rw [List.mem_singleton.mp hnew, tableClient]

end Services

open Services

namespace Client

variable {opening : Setup ChainRef} {around : Surroundings} {kind : Value} {read : BackendSettings}
  {settings : Mapping} {begin after : Privileged Services}

/-- What is promised of the level while a client is created: it is given back, and was raised wherever
something was connected to. -/
structure BuildsElevated (begin after : Privileged Services) : Prop where
  elevated_eq : after.elevated = begin.elevated
  builtElevated : BuiltElevated begin.state after.state

lemma buildsElevated_of_making (hopening : KeepsConnections opening)
    (hlevel : ∀ s, (opening s).2.elevated = s.elevated) {result : Except Problem Delegate}
    (h : Delegate.Making opening around kind read begin (result, after)) :
    BuildsElevated begin after := by
  have hopened {message : String} {made : Except Problem ChainRef} {between : Privileged Services}
      (hopened : opening { begin with state := begin.state.saying [⟨.info, message⟩] } =
        (made, between)) :
      between.elevated = begin.elevated ∧ SameConnections begin.state between.state := by
    refine ⟨?_, hopening.sameConnections hopened⟩
    have hsame := hlevel { begin with state := begin.state.saying [⟨.info, message⟩] }
    rwa [hopened] at hsame
  have hsearched {chain : ChainRef} {transport : Transport} {between : Privileged Services}
      (hsearching : Delegate.Searching opening read begin chain transport between) :
      between.elevated = begin.elevated ∧
        BuiltElevated begin.state (between.state.withCluster transport) := by
    obtain ⟨message, hsearch⟩ := hsearching.opened
    obtain ⟨helevated, hsame⟩ := hopened hsearch
    exact ⟨helevated, hsame.builtElevated_withCluster hsearching.builtElevated_eq⟩
  cases h with
  | onCallerStore hbackend => exact ⟨rfl, SameConnections.builtElevated ⟨rfl, rfl⟩⟩
  | refused problem notices hbackend hnotices hproblem =>
    exact ⟨rfl, SameConnections.builtElevated ⟨rfl, rfl⟩⟩
  | remote transport notices hbackend hnotices htransport hbuilt =>
    exact ⟨rfl, SameConnections.builtElevated_withCluster ⟨rfl, rfl⟩ hbuilt⟩
  | unopened problem message after hbackend hfailed =>
    exact ⟨(hopened hfailed).1, (hopened hfailed).2.builtElevated⟩
  | unsearched problem message chain between hbackend hchain hproblem =>
    exact ⟨(hopened hchain).1, (hopened hchain).2.builtElevated⟩
  | cloud chain transport between hbackend hsearching =>
    exact ⟨(hsearched hsearching).1, (hsearched hsearching).2⟩
  | closed problem chain transport between hbackend hsearching hbuild hordinary =>
    exact ⟨(hsearched hsearching).1, (hsearched hsearching).2.givingUp⟩
  | interrupted problem chain transport between hbackend hsearching hbuild hordinary =>
    exact ⟨(hsearched hsearching).1, (hsearched hsearching).2⟩
  | keyValue chain transport between hbackend hsearching =>
    exact ⟨(hsearched hsearching).1, (hsearched hsearching).2.withTable _ _⟩

lemma buildsElevated_createOpening (hopening : KeepsConnections opening)
    (hlevel : ∀ s, (opening s).2.elevated = s.elevated) (around : Surroundings) (settings : Mapping)
    (begin : Privileged Services) :
    BuildsElevated begin (createOpening opening around settings begin).2 := by
  have hcreating := creating_createOpening opening around settings begin
  generalize createOpening opening around settings begin = outcome at hcreating ⊢
  cases hcreating with
  | unread problem hread => exact ⟨rfl, SameConnections.builtElevated ⟨rfl, rfl⟩⟩
  | failed problem read after hread hmaking => exact buildsElevated_of_making hopening hlevel hmaking
  | created delegate read after hread hmaking =>
    exact buildsElevated_of_making hopening hlevel hmaking

/-- The steps of a program run with privilege exactly if they stand in an elevation, or the level was
raised before, and the level is given back however the program ends. So it is when a client is created
for any settings, with a chain of credentials or a failure to make one; and every search cluster and
table service that is connected to on the way is connected to with privilege. -/
theorem elevation_exactly_scoped (program : List Privilege.Instruction)
    (begin : Privileged (List Privilege.Event)) (made : Except Problem Credentials.Chain)
    (around : Surroundings) (settings : Mapping) (start : Privileged Services) :
    Privilege.ExactlyScoped program begin ∧
    (createOpening (takeChain made) around settings start).2.elevated = start.elevated ∧
    BuiltElevated start.state (createOpening (takeChain made) around settings start).2.state := by
  have hlevel (s : Privileged Services) : (takeChain made s).2.elevated = s.elevated := by
    cases made <;> rfl
  obtain ⟨helevated, hbuilt⟩ :=
    buildsElevated_createOpening (keepsConnections_takeChain made) hlevel around settings start
  exact ⟨Privilege.exactlyScoped program begin, helevated, hbuilt⟩

end Client
end Metastore
