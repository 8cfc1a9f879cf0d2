import Metastore.Proofs.Client.Building

/-!
# Clients that cannot be created

Settings that a backend cannot be used with are refused before a chain of credentials is made. Whatever
fails later, nothing that was connected to is left open, and a client that is created is as its settings
say (`Client.created_or_released`).
-/

namespace Metastore

open Credentials (ChainRef)

/-! ### What is left -/

namespace Services

/-- Whether nothing that was connected to since before is left: no table service, and no search cluster
except ones that were closed once. -/
structure Released (before s : Services) : Prop where
  exists_clusters_eq : ∃ transports : List Transport,
    s.clusters = before.clusters ++ transports.map .closedOnce
  tables_eq : s.tables = before.tables

/-- Whether a search cluster that was connected to since before is left open, and nothing else. -/
structure LeftOpen (before s : Services) : Prop where
  exists_clusters_eq : ∃ transport, s.clusters = before.clusters ++ [({ transport } : Cluster)]
  tables_eq : s.tables = before.tables

variable {before between s : Services} {transport : Transport}

lemma SameConnections.released (h : SameConnections before s) : Released before s :=
  ⟨⟨[], by simpa using h.clusters_eq⟩, h.tables_eq⟩

lemma SameConnections.released_givingUp (h : SameConnections before s) :
    Released before ((s.withCluster transport).givingUp transport) where
  exists_clusters_eq := ⟨[transport], by simp [h.clusters_eq]⟩
  tables_eq := h.tables_eq

lemma SameConnections.leftOpen (h : SameConnections before s) :
    LeftOpen before (s.withCluster transport) where
  exists_clusters_eq := ⟨transport, by simp [h.clusters_eq]⟩
  tables_eq := h.tables_eq

end Services

open Services (SameConnections Released LeftOpen)

/-! ### Settings that are refused -/

namespace Setting

variable {client : String} {endpoint region serviceName : Value}

lemma isOn_iff (v : Value) : isOn v = true ↔ v ≠ .null ∧ Text.lower v.display = "true" := by
  rw [isOn, Bool.and_eq_true, beq_iff_eq]
  cases v <;> simp [Value.isNull]

lemma requireSigning_of_blank (h : isBlank endpoint = true ∨ isBlank region = true) :
    requireSigning client endpoint region serviceName =
      .error (.config (.endpointAndRegionRequired client)) := by
  rw [requireSigning, if_pos (by simpa using h)]

/-- Nothing but the text itself counts as equal to a text. -/
lemma same_text {v : Value} {s : String} (h : v.same (.text s) = true) : v = .text s := by
  cases v <;> simp_all [Value.same, Value.sameNumber, Value.asInt?]

lemma requireSigning_of_unsupported (hendpoint : isBlank endpoint = false)
    (hregion : isBlank region = false) (h : ∀ s ∈ signingServices, serviceName ≠ .text s) :
    requireSigning client endpoint region serviceName =
      .error (.config (.serviceUnsupported client)) := by
  have hunsupported : ¬ (signingServices.any fun s => serviceName.same (.text s)) = true := by
    intro hany
    obtain ⟨s, hs, hsame⟩ := List.any_eq_true.mp hany
    exact h s hs (same_text hsame)
  rw [requireSigning, hendpoint, hregion, if_neg (by simp), if_neg hunsupported]

end Setting

namespace Client

/-- What is promised of creating a client: settings that cannot be used are refused, and nothing has
happened until then. -/
structure RefusesFirst (opening : Setup ChainRef) (around : Surroundings) (settings : Mapping) : Prop where
  remote : Backend.ofSetting (settings.getText Setting.kind) = .ok .remote →
    Setting.isBlank (settings.getText Setting.endpoint) = true →
    ∀ begin, createOpening opening around settings begin =
      (.error (.config (.endpointRequired remoteName)), begin)
  blank {backend : Backend} :
    Backend.ofSetting (settings.getText Setting.kind) = .ok backend → backend.IsSigned →
    Setting.isBlank (settings.getText Setting.endpoint) = true ∨
      Setting.isBlank (settings.getText Setting.region) = true →
    ∀ begin, createOpening opening around settings begin =
      (.error (.config (.endpointAndRegionRequired (settings.getText Setting.kind).display)), begin)
  unsupported {backend : Backend} :
    Backend.ofSetting (settings.getText Setting.kind) = .ok backend → backend.IsSigned →
    Setting.isBlank (settings.getText Setting.endpoint) = false →
    Setting.isBlank (settings.getText Setting.region) = false →
    (∀ s ∈ signingServices, settings.getText Setting.serviceName ≠ .text s) →
    ∀ begin, createOpening opening around settings begin =
      (.error (.config (.serviceUnsupported (settings.getText Setting.kind).display)), begin)

variable {opening : Setup ChainRef} {around : Surroundings} {settings : Mapping}

/-- Settings that requests cannot be signed with are refused first. -/
lemma createOpening_of_requireSigning {backend : Backend} {problem : Problem}
    (h : Backend.ofSetting (settings.getText Setting.kind) = .ok backend) (hsigned : backend.IsSigned)
    (hproblem : Setting.requireSigning (settings.getText Setting.kind).display
      (settings.getText Setting.endpoint) (settings.getText Setting.region)
      (settings.getText Setting.serviceName) = .error problem) (begin : Privileged Services) :
    createOpening opening around settings begin = (.error problem, begin) := by
  rw [createOpening_of_kind h]
  have hlift : (liftM (Setting.requireSigning (settings.getText Setting.kind).display
      (settings.getText Setting.endpoint) (settings.getText Setting.region)
      (settings.getText Setting.serviceName)) : Setup Unit) begin = (.error problem, begin) := by
    rw [Action.lift_apply, hproblem]
  rcases hsigned with rfl | rfl
  · exact Action.bind_of_error (Action.bind_of_error hlift _) _
  · exact Action.bind_of_error (Action.bind_of_error hlift _) _

lemma refusesFirst (opening : Setup ChainRef) (around : Surroundings) (settings : Mapping) :
    RefusesFirst opening around settings where
  remote := by
    intro hkind hblank begin
    have hlift : (liftM (Setting.requireEndpoint remoteName (settings.getText Setting.endpoint)) :
        Setup Unit) begin = (.error (.config (.endpointRequired remoteName)), begin) := by
      rw [Action.lift_apply, Setting.requireEndpoint, if_pos hblank]
    rw [createOpening_of_kind hkind]
    exact Action.bind_of_error (Action.bind_of_error hlift _) _
  blank hkind hsigned hblank :=
    createOpening_of_requireSigning hkind hsigned (Setting.requireSigning_of_blank hblank)
  unsupported hkind hsigned hendpoint hregion hservice :=
    createOpening_of_requireSigning hkind hsigned
      (Setting.requireSigning_of_unsupported hendpoint hregion hservice)

/-! ### Clients that fail to be created -/

/-- What is left of a client that could not be created: nothing was connected to, or a failure had it
closed, or building the client of the table service was interrupted, and the search cluster stays. -/
inductive Leaves (around : Surroundings) (region : Value) (before : Services) (problem : Problem)
    (s : Services) : Prop
  | untouched (h : SameConnections before s)
  | closed (hordinary : problem.isOrdinary = true) (h : Released before s)
  | interrupted (hbuild : around.buildTable region = .error problem)
      (hordinary : problem.isOrdinary = false) (h : LeftOpen before s)

variable {kind : Value} {read : BackendSettings} {begin after : Privileged Services}

lemma leaves_of_making (hopening : KeepsConnections opening) {problem : Problem}
    (h : Delegate.Making opening around kind read begin (.error problem, after)) :
    Leaves around read.region begin.state problem after.state := by
  cases h with
  | refused problem notices hbackend hnotices hproblem => exact .untouched ⟨rfl, rfl⟩
  | unopened problem message after hbackend hopened =>
    exact .untouched (hopening.sameConnections hopened)
  | unsearched problem message chain between hbackend hopened hproblem =>
    exact .untouched (hopening.sameConnections hopened)
  | closed problem chain transport between hbackend hsearching hbuild hordinary =>
    obtain ⟨message, hopened⟩ := hsearching.opened
    exact .closed hordinary (hopening.sameConnections hopened).released_givingUp
  | interrupted problem chain transport between hbackend hsearching hbuild hordinary =>
    obtain ⟨message, hopened⟩ := hsearching.opened
    exact .interrupted hbuild hordinary (hopening.sameConnections hopened).leftOpen

lemma leaves_of_createOpening (hopening : KeepsConnections opening) {problem : Problem}
    (h : createOpening opening around settings begin = (.error problem, after)) :
    Leaves around (settings.getText Setting.region) begin.state problem after.state := by
  have hcreating := creating_createOpening opening around settings begin
  rw [h] at hcreating
  cases hcreating with
  | unread problem hread => exact .untouched ⟨rfl, rfl⟩
  | failed problem read after hread hmaking =>
    obtain ⟨backend, -, heq⟩ := except_bind_eq_ok.mp hread
    obtain rfl := Except.ok.inj heq
    exact leaves_of_making hopening hmaking

namespace Leaves

variable {region : Value} {before s : Services}

/-- Whatever fails, nothing is left. -/
lemma released {problem : Problem} (h : Leaves around region before problem s)
    (hne : problem ≠ .interrupted) : Released before s := by
  cases h with
  | untouched h => exact h.released
  | closed hordinary h => exact h
  | interrupted hbuild hordinary h =>
    rw [Problem.isOrdinary.eq_def] at hordinary
    split at hordinary
    · exact absurd rfl hne
    · cases hordinary

/-- A request to stop has nothing closed. -/
lemma sameConnections_or_leftOpen (h : Leaves around region before .interrupted s) :
    SameConnections before s ∨
      around.buildTable region = .error .interrupted ∧ LeftOpen before s := by
  cases h with
  | untouched h => exact .inl h
  | closed hordinary h => cases hordinary
  | interrupted hbuild hordinary h => exact .inr ⟨hbuild, h⟩

end Leaves

/-! ### Clients that are created -/

/-- Whether a client is of the kind, has the multi-tenancy and uses the tenant field that its settings
say. -/
structure AsSet (settings : Mapping) (client : Client) : Prop where
  kind_eq : ∃ backend, Backend.ofSetting (settings.getText Setting.kind) = .ok backend ∧
    client.kind = kindFor backend
  multiTenancy_iff : client.multiTenancy = true ↔
    settings.getText Setting.multiTenancy ≠ .null ∧
      Text.lower (settings.getText Setting.multiTenancy).display = "true"
  usesField : client.UsesField (settings.getText Setting.tenantField)

lemma asSet_of_createOpening {client : Client}
    (h : createOpening opening around settings begin = (.ok client, after)) : client.AsSet settings := by
  obtain ⟨read, hread, hmaking, hmulti⟩ := making_of_createOpening h
  obtain ⟨backend, hbackend, heq⟩ := except_bind_eq_ok.mp hread
  obtain rfl := Except.ok.inj heq
  refine ⟨⟨backend, hbackend, kind_of_making hmaking⟩, ?_, usesField_of_making hmaking⟩
  rw [hmulti]
  exact Setting.isOn_iff _

/-- Settings that a backend cannot be used with are refused before a chain of credentials is made and
before anything is connected to, however the chain would be made. Where making the chain leaves alone
what is connected to, a client that cannot be created, whatever fails and at whichever step, leaves no
table service behind, and a search cluster only if it was closed, once. A request to stop is no failure
and has nothing closed: the search cluster stays if it comes while the client of a table service is
built. A client that is created is as its settings say. -/
theorem created_or_released (opening : Setup ChainRef) (around : Surroundings) (settings : Mapping) :
    RefusesFirst opening around settings ∧
    (KeepsConnections opening → ∀ begin problem after,
      createOpening opening around settings begin = (.error problem, after) →
        (problem ≠ .interrupted → Released begin.state after.state) ∧
        (problem = .interrupted → SameConnections begin.state after.state ∨
          around.buildTable (settings.getText Setting.region) = .error .interrupted ∧
            LeftOpen begin.state after.state)) ∧
    ∀ begin client after, createOpening opening around settings begin = (.ok client, after) →
      client.AsSet settings := by
  refine ⟨refusesFirst opening around settings, ?_, fun begin client after => asSet_of_createOpening⟩
  intro hopening begin problem after houtcome
  have hleaves := leaves_of_createOpening hopening houtcome
  constructor
  · exact hleaves.released
  · rintro rfl
    exact hleaves.sameConnections_or_leftOpen

/-- Beside a client of a table service, another one is to be created for a region that is refused. The
search cluster that was connected to for it has been closed, and that of the first client has not. -/
theorem created_or_released_bad_region :
    let build : Services.TableBuilder := fun region =>
      if region = .text "eu-west-1" then .ok () else .error .badRegion
    let around : Surroundings := { buildTable := build }
    let settings (region : String) : Mapping :=
      [(.text "metadata-type", .text "keyvalue"), (.text "endpoint", .text "https://h"),
        (.text "region", .text region), (.text "service-name", .text "es")]
    let opening := takeChain (.ok { sources := [] })
    let first := createOpening opening around (settings "eu-west-1") ⟨false, {}⟩
    let second := createOpening opening around (settings "eu_west") first.2
    RefusesFirst opening around (settings "eu_west") ∧ KeepsConnections opening ∧
      second.1 = .error .badRegion ∧ Released first.2.state second.2.state ∧
      second.2.state.clusterCloses = [0, 1] ∧ second.2.state.tableCloses = [0] := by
  intro build around settings opening first second
  obtain ⟨hrefuses, hfailed, -⟩ := created_or_released opening around (settings "eu_west")
  have hopening : KeepsConnections opening := keepsConnections_takeChain _
  have hproblem : second.1 = .error .badRegion := by decide +kernel
  have houtcome : second = (.error .badRegion, second.2) := by
    rw [← hproblem]
    exact (Prod.mk.eta (p := second)).symm
  obtain ⟨hreleased, -⟩ := hfailed hopening first.2 .badRegion second.2 houtcome
  exact ⟨hrefuses, hopening, hproblem, hreleased Problem.noConfusion, by decide +kernel,
    by decide +kernel⟩

end Client
end Metastore
