import Metastore.Client.Creation
import Metastore.Proofs.Services.Connection

/-!
# Building clients

What creating a client does, from its first step to its last. `Delegate.Making` has one constructor for
each way in which making a delegate can end, with the services that it leaves, and `Client.Creating` is the
same for clients. What is promised of clients that are created, and of what is left of those that are not,
is proved by cases on them.
-/

namespace Metastore

open Credentials (ChainRef)

/-- The backends whose requests are signed. -/
def Backend.IsSigned (backend : Backend) : Prop := backend = .cloud ∨ backend = .keyValue

lemma Setting.isAuth_of_requireSigning {client : String} {endpoint region serviceName : Value}
    {problem : Problem} (h : requireSigning client endpoint region serviceName = .error problem) :
    problem.isAuth = false := by
  rw [requireSigning] at h
  split at h
  · cases h; rfl
  · split at h
    · cases h
    · cases h; rfl

namespace Client

/-! ### Settings -/

/-- The settings of a backend, read as they are. -/
def readAs (backend : Backend) (settings : Mapping) : BackendSettings where
  backend := backend
  endpoint := settings.getText Setting.endpoint
  region := settings.getText Setting.region
  serviceName := settings.getText Setting.serviceName
  tenantField := settings.getText Setting.tenantField
  multiTenancy := Setting.isOn (settings.getText Setting.multiTenancy)
  insecure := Setting.isOn (settings.getText Setting.insecure)
  caCerts := (settings.getText Setting.caCerts).orElse .null

lemma ofMapping_of_kind {backend : Backend} {settings : Mapping}
    (h : Backend.ofSetting (settings.getText Setting.kind) = .ok backend) :
    BackendSettings.ofMapping settings = .ok (readAs backend settings) := by
  rw [BackendSettings.ofMapping, h]
  rfl

/-! ### Chains of credentials -/

/-- Whether making a chain of credentials leaves alone what is connected to. -/
def KeepsConnections (opening : Setup ChainRef) : Prop :=
  ∀ s, Services.SameConnections s.state (opening s).2.state

lemma keepsConnections_takeChain (made : Except Problem Credentials.Chain) :
    KeepsConnections (takeChain made) := by
  intro s
  cases made <;> exact ⟨rfl, rfl⟩

/-- What is said before a chain is made makes no difference to what is connected to. -/
lemma KeepsConnections.sameConnections {opening : Setup ChainRef} (h : KeepsConnections opening)
    {notices : List Notice} {result : Except Problem ChainRef} {begin between : Privileged Services}
    (hopened : opening { begin with state := begin.state.saying notices } = (result, between)) :
    Services.SameConnections begin.state between.state := by
  have hsame := h { begin with state := begin.state.saying notices }
  rw [hopened] at hsame
  exact ⟨hsame.clusters_eq, hsame.tables_eq⟩

/-! ### The caller's own store -/

/-- The notices with which the caller's own store is taken. -/
def localNotices (kind : Value) : List Notice :=
  (if (kind.text?.map Backend.isUnknown).getD false then [⟨.warning, unknownNotice kind⟩] else []) ++
    [⟨.info, "Using local opensearch cluster as metadata store"⟩]

/-- The caller's own store can always be taken. -/
lemma createLocal_eq (around : Surroundings) (kind : Value) (settings : BackendSettings)
    (begin : Privileged Services) :
    createLocal around kind settings begin =
      (.ok (.callerStore around.schemaRegistry settings.tenantField),
        { begin with state := begin.state.saying (localNotices kind) }) := by
  rw [createLocal, localNotices]
  dsimp only
  split
  · rw [← Services.saying_saying]
    rfl
  · rfl

/-! ### Failures -/

variable {action : Setup Unit} {begin between : Privileged Services} {transport : Transport}

lemma closingOnFailure_of_ok (h : action begin = (.ok (), between)) :
    closingOnFailure action begin = (.ok (), between) := by
  rw [closingOnFailure, h]

/-- A search cluster that was just connected to is given up where a failure is an ordinary one. -/
lemma closingOnFailure_of_ordinary {problem : Problem} (h : action begin = (.error problem, between))
    (hordinary : problem.isOrdinary = true) (hcluster : between.state.cluster = some { transport }) :
    closingOnFailure action begin =
      (.error problem, { between with state := between.state.givingUp transport }) := by
  simp only [closingOnFailure, h, hordinary, if_true, Services.closeCluster_of_new hcluster]

lemma closingOnFailure_of_interruption {problem : Problem}
    (h : action begin = (.error problem, between)) (hordinary : problem.isOrdinary = false) :
    closingOnFailure action begin = (.error problem, between) := by
  simp only [closingOnFailure, h, hordinary, Bool.false_eq_true, if_false]

end Client

/-! ### Delegates -/

namespace Delegate

/-- Whether a chain of credentials was made, after something was said, and a search cluster connected to
through a transport, with requests that are signed with the credentials of that chain. -/
structure Searching (opening : Setup ChainRef) (settings : BackendSettings)
    (begin : Privileged Services) (chain : ChainRef) (transport : Transport)
    (between : Privileged Services) : Prop where
  opened : ∃ message, opening { begin with state := begin.state.saying [⟨.info, message⟩] } =
    (.ok chain, between)
  signs : transport.Signs chain.credentials settings.region settings.serviceName
  builtElevated_eq : transport.builtElevated = true

/-- The ways in which making the delegate of a backend can end. -/
inductive Making (opening : Setup ChainRef) (around : Surroundings) (kind : Value)
    (settings : BackendSettings) (begin : Privileged Services) :
    Except Problem Delegate × Privileged Services → Prop where
  | onCallerStore (hbackend : settings.backend = .local) :
      Making opening around kind settings begin
        (.ok (.callerStore around.schemaRegistry settings.tenantField),
          { begin with state := begin.state.saying (Client.localNotices kind) })
  /-- Settings are refused, or cannot be connected with, before a chain of credentials is asked for. -/
  | refused (problem : Problem) (notices : List Notice) (hbackend : settings.backend ≠ .local)
      (hnotices : ∀ notice ∈ notices, notice.IsOfConnecting settings.endpoint)
      (hproblem : settings.backend.IsSigned → problem.isAuth = false) :
      Making opening around kind settings begin
        (.error problem, { begin with state := begin.state.saying notices })
  | remote (transport : Transport) (notices : List Notice) (hbackend : settings.backend = .remote)
      (hnotices : ∀ notice ∈ notices, notice.IsOfConnecting settings.endpoint)
      (htransport : transport.Reaches around.env settings.endpoint settings.insecure)
      (hbuilt : transport.builtElevated = true) :
      Making opening around kind settings begin
        (.ok (.cluster ⟨transport, settings.tenantField⟩),
          { begin with state := (begin.state.saying notices).withCluster transport })
  | unopened (problem : Problem) (message : String) (after : Privileged Services)
      (hbackend : settings.backend.IsSigned)
      (hopening : opening { begin with state := begin.state.saying [⟨.info, message⟩] } =
        (.error problem, after)) :
      Making opening around kind settings begin (.error problem, after)
  | unsearched (problem : Problem) (message : String) (chain : ChainRef) (between : Privileged Services)
      (hbackend : settings.backend.IsSigned)
      (hopening : opening { begin with state := begin.state.saying [⟨.info, message⟩] } =
        (.ok chain, between))
      (hproblem : problem.isAuth = false) :
      Making opening around kind settings begin (.error problem, between)
  | cloud (chain : ChainRef) (transport : Transport) (between : Privileged Services)
      (hbackend : settings.backend = .cloud)
      (hsearching : Searching opening settings begin chain transport between) :
      Making opening around kind settings begin
        (.ok (.cluster ⟨transport, settings.tenantField⟩),
          { between with state := between.state.withCluster transport })
  /-- The client of the table service fails to be built; the search cluster is given up. -/
  | closed (problem : Problem) (chain : ChainRef) (transport : Transport)
      (between : Privileged Services) (hbackend : settings.backend = .keyValue)
      (hsearching : Searching opening settings begin chain transport between)
      (hbuild : around.buildTable settings.region = .error problem)
      (hordinary : problem.isOrdinary = true) :
      Making opening around kind settings begin
        (.error problem,
          { between with state := (between.state.withCluster transport).givingUp transport })
  | interrupted (problem : Problem) (chain : ChainRef) (transport : Transport)
      (between : Privileged Services) (hbackend : settings.backend = .keyValue)
      (hsearching : Searching opening settings begin chain transport between)
      (hbuild : around.buildTable settings.region = .error problem)
      (hordinary : problem.isOrdinary = false) :
      Making opening around kind settings begin
        (.error problem, { between with state := between.state.withCluster transport })
  | keyValue (chain : ChainRef) (transport : Transport) (between : Privileged Services)
      (hbackend : settings.backend = .keyValue)
      (hsearching : Searching opening settings begin chain transport between) :
      Making opening around kind settings begin
        (.ok (.table settings.region ⟨transport, settings.tenantField⟩ settings.tenantField),
          { between with
            state := (between.state.withCluster transport).withTable
              (Services.tableClient settings.region chain) })

variable {opening : Setup ChainRef} {around : Surroundings} {kind : Value} {settings : BackendSettings}
  {begin : Privileged Services}

/-- What is refused at once leaves everything as it is. -/
lemma Making.refused_at_once (problem : Problem) (hbackend : settings.backend ≠ .local)
    (hproblem : settings.backend.IsSigned → problem.isAuth = false) :
    Making opening around kind settings begin (.error problem, begin) := by
  have h : Making opening around kind settings begin
      (.error problem, { begin with state := begin.state.saying [] }) :=
    .refused problem [] hbackend (List.forall_mem_nil _) hproblem
  rwa [Services.saying_nil] at h

lemma making_createRemote (hbackend : settings.backend = .remote) :
    Making opening around kind settings begin (Client.createRemote around settings begin) := by
  have hlocal : settings.backend ≠ .local := by simp [hbackend]
  have hsigned : ¬ settings.backend.IsSigned := by simp [Backend.IsSigned, hbackend]
  cases hrequire : Setting.requireEndpoint Client.remoteName settings.endpoint with
  | error problem =>
    rw [Client.createRemote, Action.bind_of_error (by rw [Action.lift_apply, hrequire])]
    exact .refused_at_once problem hlocal fun h => absurd h hsigned
  | ok _ =>
    rw [Client.createRemote, Action.bind_of_ok (by rw [Action.lift_apply, hrequire]),
      Action.bind_of_ok (Services.log_apply _ _ _), Action.bind_apply]
    have hconnecting := Services.Connecting.of_saying "Using remote opensearch cluster as metadata store"
      (Services.connecting_connect around.files around.env settings.endpoint settings.insecure
        settings.caCerts Transport.defaultPoolSize { begin with state := begin.state.saying _ })
    generalize Services.connect _ _ _ _ _ _ _ = outcome at hconnecting ⊢
    cases hconnecting with
    | refused problem notices hnotices =>
      exact .refused problem notices hlocal hnotices fun h => absurd h hsigned
    | connected transport notices hnotices htransport hbuilt =>
      exact .remote transport notices hbackend hnotices htransport hbuilt

/-- What the two signed kinds of backend begin with. -/
lemma making_of_searching (hbackend : settings.backend.IsSigned) (client message : String)
    {next : ChainRef → ClusterBackend → Setup Delegate}
    (hnext : ∀ chain transport between, Searching opening settings begin chain transport between →
      Making opening around kind settings begin (next chain ⟨transport, settings.tenantField⟩
        { between with state := between.state.withCluster transport })) :
    Making opening around kind settings begin ((do
      Setting.requireSigning client settings.endpoint settings.region settings.serviceName
      Setup.log .info message
      let chain ← opening
      let search ← Client.cloudSearch settings chain
      next chain search : Setup Delegate) begin) := by
  have hlocal : settings.backend ≠ .local := by
    rcases hbackend with h | h <;> simp [h]
  cases hrequire : Setting.requireSigning client settings.endpoint settings.region
      settings.serviceName with
  | error problem =>
    rw [Action.bind_of_error (Action.lift_apply _ _)]
    exact .refused_at_once problem hlocal fun _ => Setting.isAuth_of_requireSigning hrequire
  | ok _ =>
    rw [Action.bind_of_ok (Action.lift_apply _ _), Action.bind_of_ok (Services.log_apply _ _ _),
      Action.bind_apply]
    cases hopening : opening { begin with state := begin.state.saying [⟨.info, message⟩] } with
    | mk result between =>
      cases result with
      | error problem => exact .unopened problem message between hbackend hopening
      | ok chain =>
        dsimp only
        rw [Client.cloudSearch, Action.bind_apply, Action.bind_apply]
        have hconnecting := Services.connectingSigned_connectSigning settings.endpoint settings.region
          settings.serviceName chain Transport.defaultPoolSize between
        generalize Services.connectSigning _ _ _ _ _ _ = outcome at hconnecting ⊢
        cases hconnecting with
        | refused problem hproblem =>
          exact .unsearched problem message chain between hbackend hopening hproblem
        | connected transport hsigns hbuilt =>
          exact hnext chain transport between ⟨⟨message, hopening⟩, hsigns, hbuilt⟩

lemma making_createCloud (hbackend : settings.backend = .cloud) :
    Making opening around kind settings begin (Client.createCloud opening kind settings begin) :=
  making_of_searching (.inl hbackend) _ _ fun chain transport between hsearching =>
    .cloud chain transport between hbackend hsearching

lemma making_createKeyValue (hbackend : settings.backend = .keyValue) :
    Making opening around kind settings begin
      (Client.createKeyValue opening around kind settings begin) := by
  refine making_of_searching (.inr hbackend) _ _ fun chain transport between hsearching => ?_
  rw [Action.bind_apply]
  cases hbuild : around.buildTable settings.region with
  | ok _ =>
    rw [Client.closingOnFailure_of_ok (Services.connectTable_of_ok hbuild)]
    exact .keyValue chain transport between hbackend hsearching
  | error problem =>
    cases hordinary : problem.isOrdinary with
    | true =>
      rw [Client.closingOnFailure_of_ordinary (Services.connectTable_of_error hbuild) hordinary rfl]
      exact .closed problem chain transport between hbackend hsearching hbuild hordinary
    | false =>
      rw [Client.closingOnFailure_of_interruption (Services.connectTable_of_error hbuild) hordinary]
      exact .interrupted problem chain transport between hbackend hsearching hbuild hordinary

end Delegate

/-! ### Clients -/

namespace Client

variable {opening : Setup ChainRef} {around : Surroundings} {settings : Mapping}
  {begin after : Privileged Services}

/-- The ways in which creating a client can end. -/
inductive Creating (opening : Setup ChainRef) (around : Surroundings) (settings : Mapping)
    (begin : Privileged Services) : Except Problem Client × Privileged Services → Prop where
  /-- The kind of backend cannot be read. -/
  | unread (problem : Problem) (hread : BackendSettings.ofMapping settings = .error problem) :
      Creating opening around settings begin (.error problem, begin)
  | failed (problem : Problem) (read : BackendSettings) (after : Privileged Services)
      (hread : BackendSettings.ofMapping settings = .ok read)
      (hmaking : Delegate.Making opening around (settings.getText Setting.kind) read begin
        (.error problem, after)) :
      Creating opening around settings begin (.error problem, after)
  | created (delegate : Delegate) (read : BackendSettings) (after : Privileged Services)
      (hread : BackendSettings.ofMapping settings = .ok read)
      (hmaking : Delegate.Making opening around (settings.getText Setting.kind) read begin
        (.ok delegate, after)) :
      Creating opening around settings begin
        (.ok { delegate, multiTenancy := read.multiTenancy }, after)

/-- The delegate for settings that were read. -/
def createDelegate (opening : Setup ChainRef) (around : Surroundings) (kind : Value)
    (settings : BackendSettings) : Setup Delegate :=
  match settings.backend with
  | .local => createLocal around kind settings
  | .remote => createRemote around settings
  | .cloud => createCloud opening kind settings
  | .keyValue => createKeyValue opening around kind settings

lemma createDelegate_of_local {opening : Setup ChainRef} {kind : Value} {read : BackendSettings}
    (h : read.backend = .local) :
    createDelegate opening around kind read begin =
      (.ok (.callerStore around.schemaRegistry read.tenantField),
        { begin with state := begin.state.saying (localNotices kind) }) := by
  rw [createDelegate, h]
  exact createLocal_eq around kind read begin

lemma making_createDelegate (opening : Setup ChainRef) (around : Surroundings) (kind : Value)
    (settings : BackendSettings) (begin : Privileged Services) :
    Delegate.Making opening around kind settings begin
      (createDelegate opening around kind settings begin) := by
  cases hbackend : settings.backend with
  | «local» =>
    rw [createDelegate_of_local hbackend]
    exact .onCallerStore hbackend
  | remote =>
    rw [createDelegate, hbackend]
    exact Delegate.making_createRemote hbackend
  | cloud =>
    rw [createDelegate, hbackend]
    exact Delegate.making_createCloud hbackend
  | keyValue =>
    rw [createDelegate, hbackend]
    exact Delegate.making_createKeyValue hbackend

/-- Once the settings are read, creating a client is making its delegate. -/
lemma createOpening_of_read {read : BackendSettings}
    (h : BackendSettings.ofMapping settings = .ok read) (begin : Privileged Services) :
    createOpening opening around settings begin =
      (createDelegate opening around (settings.getText Setting.kind) read >>= fun delegate =>
        pure ({ delegate, multiTenancy := read.multiTenancy } : Client)) begin := by
  rw [createOpening, createDelegate, Action.bind_of_ok (by rw [Action.lift_apply, h])]
  cases read.backend <;> rfl

lemma createOpening_of_kind {backend : Backend}
    (h : Backend.ofSetting (settings.getText Setting.kind) = .ok backend)
    (begin : Privileged Services) :
    createOpening opening around settings begin =
      (createDelegate opening around (settings.getText Setting.kind) (readAs backend settings) >>=
        fun delegate => pure
          ({ delegate, multiTenancy := (readAs backend settings).multiTenancy } : Client)) begin :=
  createOpening_of_read (ofMapping_of_kind h) begin

lemma creating_createOpening (opening : Setup ChainRef) (around : Surroundings) (settings : Mapping)
    (begin : Privileged Services) :
    Creating opening around settings begin (createOpening opening around settings begin) := by
  cases hread : BackendSettings.ofMapping settings with
  | error problem =>
    rw [createOpening, Action.bind_of_error (by rw [Action.lift_apply, hread])]
    exact .unread problem hread
  | ok read =>
    rw [createOpening_of_read hread, Action.bind_apply]
    have hmaking := making_createDelegate opening around (settings.getText Setting.kind) read begin
    generalize createDelegate _ _ _ _ _ = outcome at hmaking ⊢
    rcases outcome with ⟨problem | delegate, after⟩
    · exact .failed problem read after hread hmaking
    · exact .created delegate read after hread hmaking

/-- What was created for settings was made for them. -/
lemma making_of_createOpening {client : Client}
    (h : createOpening opening around settings begin = (.ok client, after)) :
    ∃ read, BackendSettings.ofMapping settings = .ok read ∧
      Delegate.Making opening around (settings.getText Setting.kind) read begin
        (.ok client.delegate, after) ∧ client.multiTenancy = read.multiTenancy := by
  have hcreating := creating_createOpening opening around settings begin
  rw [h] at hcreating
  cases hcreating with
  | created delegate read after hread hmaking => exact ⟨read, hread, hmaking, rfl⟩

/-! ### What is made -/

/-- The kind of the delegate for a backend. -/
def kindFor : Backend → DelegateKind
  | .local => .local
  | .remote => .remoteCluster
  | .cloud => .cloudSearch
  | .keyValue => .keyValue

variable {kind : Value} {read : BackendSettings} {delegate : Delegate}

lemma kind_of_making
    (h : Delegate.Making opening around kind read begin (.ok delegate, after)) :
    delegate.kind = kindFor read.backend := by
  cases h with
  | onCallerStore hbackend => rw [hbackend]; rfl
  | remote transport notices hbackend hnotices htransport hbuilt =>
    rw [hbackend, Delegate.kind, ClusterBackend.kind, htransport.isSigned_eq]
    rfl
  | cloud chain transport between hbackend hsearching =>
    rw [hbackend, Delegate.kind, ClusterBackend.kind, hsearching.signs.isSigned_eq]
    rfl
  | keyValue chain transport between hbackend hsearching => rw [hbackend]; rfl

/-- Whether a client keeps tenants in a field, and searches by the same. -/
def UsesField (client : Client) (field : Value) : Prop :=
  match client.delegate with
  | .callerStore _ own => own = field
  | .cluster backend => backend.tenantField = field
  | .table _ search own => own = field ∧ search.tenantField = field

lemma usesField_of_making {client : Client}
    (h : Delegate.Making opening around kind read begin (.ok client.delegate, after)) :
    client.UsesField read.tenantField := by
  obtain ⟨delegate, multiTenancy⟩ := client
  cases h with
  | onCallerStore hbackend => rfl
  | remote transport notices hbackend hnotices htransport hbuilt => rfl
  | cloud chain transport between hbackend hsearching => rfl
  | keyValue chain transport between hbackend hsearching => exact ⟨rfl, rfl⟩

end Client
end Metastore
