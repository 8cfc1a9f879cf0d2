import Metastore.Proofs.Action
import Metastore.Services.Connect

/-!
# Connections

What connecting does, from its first step to its last. `Services.Connecting` and
`Services.ConnectingSigned` have one constructor for each way in which it can end, with the services that
it leaves: connecting that fails has connected to nothing, and what is connected to was built with
privilege. What is said of clients that are created is read off them.
-/

namespace Metastore

/-! ### User names and passwords -/

/-- Whether the environment gives a user name that is not empty, and a password. -/
structure Environment.GivesLogin (env : Environment) (user password : String) : Prop where
  user_eq : env.value? Authentication.userName = some user
  user_ne : user ≠ ""
  password_eq : env.value? Authentication.passwordName = some password

namespace Authentication

variable {env : Environment}

lemma ofEnvironment_of_login {user password : String} (h : env.GivesLogin user password)
    (insecure : Bool) : ofEnvironment env insecure = .basic user password := by
  have hempty : (!user.isEmpty) = true := by simpa using h.user_ne
  simp only [ofEnvironment, h.user_eq, h.password_eq, Option.filter_some, hempty, if_true]

lemma ofEnvironment_of_none (h : ∀ user password, ¬ env.GivesLogin user password)
    (insecure : Bool) :
    ofEnvironment env insecure =
      if insecure then
        .basic (orInsecureDefault (env.value? userName)) (orInsecureDefault (env.value? passwordName))
      else .anonymous := by
  rw [ofEnvironment]
  split
  · next user password huser hpassword =>
    obtain ⟨huser, hne⟩ := Option.filter_eq_some_iff.mp huser
    exact absurd ⟨huser, by simpa using hne, hpassword⟩ (h user password)
  · rfl

end Authentication

/-! ### Transports -/

/-- What is verified over a scheme: nothing over http, and over https the chain and the host, unless
the connection is insecure. -/
def Scheme.Verified (scheme : Scheme) (insecure : Bool) : Option TlsContext → Prop
  | none => scheme = .http
  | some context =>
    scheme = .https ∧ context.verifiesChain = !insecure ∧ context.checksHost = !insecure

lemma TlsContext.build_eq_ok {files : Files} {insecure : Bool} {caCerts : Value}
    {context : TlsContext} (h : build files insecure caCerts = .ok context) :
    context.verifiesChain = !insecure ∧ context.checksHost = !insecure := by
  obtain ⟨authorities, -, hcontext⟩ := except_bind_eq_ok.mp h
  obtain rfl := Except.ok.inj hcontext
  exact ⟨rfl, rfl⟩

namespace Transport

/-- Whether a transport is one to a self-managed cluster at an endpoint. -/
structure Reaches (env : Environment) (endpoint : Value) (insecure : Bool) (transport : Transport) :
    Prop where
  parsed : Endpoint.parse endpoint.display = .ok transport.address
  authentication_eq : transport.authentication = .ofEnvironment env insecure
  verified : transport.address.scheme.Verified insecure transport.tls

/-- Whether a transport is one whose requests are signed with some credentials, for a region and a
service. -/
structure Signs (credentials : Credentials.Deferred) (region serviceName : Value)
    (transport : Transport) : Prop where
  authentication_eq : transport.authentication = .signing credentials region serviceName
  tls_eq : transport.tls = none

lemma Reaches.isSigned_eq {env : Environment} {endpoint : Value} {insecure : Bool}
    {transport : Transport} (h : transport.Reaches env endpoint insecure) :
    transport.isSigned = false := by
  rw [isSigned, h.authentication_eq]
  by_cases hlogin : ∃ user password, env.GivesLogin user password
  · obtain ⟨user, password, hlogin⟩ := hlogin
    rw [Authentication.ofEnvironment_of_login hlogin]
  · rw [Authentication.ofEnvironment_of_none (by simpa using hlogin)]
    cases insecure <;> rfl

lemma Signs.isSigned_eq {credentials : Credentials.Deferred} {region serviceName : Value}
    {transport : Transport} (h : transport.Signs credentials region serviceName) :
    transport.isSigned = true := by
  rw [isSigned, h.authentication_eq]

end Transport

/-- A search cluster that was connected to and closed once, and asked for nothing else. -/
def Cluster.closedOnce (transport : Transport) : Cluster where
  transport
  service := { contents := [], calls := [⟨.close, none⟩] }
  closed := true

/-- Whether a notice is one about connecting: information, or the warning that the cluster at an endpoint
is not verified. -/
def Notice.IsOfConnecting (endpoint : Value) (notice : Notice) : Prop :=
  notice.severity = .info ∨ notice = ⟨.warning, Services.insecureNotice endpoint⟩

namespace Services

/-- Whether nothing was connected to or given up since before. -/
structure SameConnections (before s : Services) : Prop where
  clusters_eq : s.clusters = before.clusters
  tables_eq : s.tables = before.tables

/-- The services with notices added to the log. -/
def saying (s : Services) (notices : List Notice) : Services := { s with log := s.log ++ notices }

/-- The services with the search cluster, which was reached through a transport, given up again. -/
def givingUp (s : Services) (transport : Transport) : Services :=
  { s with cluster := some (.closedOnce transport) }

@[simp] lemma saying_nil (s : Services) : s.saying [] = s := by
  rw [saying, List.append_nil]

@[simp] lemma saying_saying (s : Services) (notices more : List Notice) :
    (s.saying notices).saying more = s.saying (notices ++ more) := by
  simp [saying]

section Connected

variable (s : Services) (transport : Transport) (table : TableClient)

@[simp] lemma clusters_withCluster :
    (s.withCluster transport).clusters = s.clusters ++ [({ transport } : Cluster)] := rfl

@[simp] lemma tables_withCluster : (s.withCluster transport).tables = s.tables := rfl

@[simp] lemma tables_withTable : (s.withTable table).tables = s.tables ++ [table] := rfl

@[simp] lemma clusters_givingUp_withCluster :
    ((s.withCluster transport).givingUp transport).clusters =
      s.clusters ++ [.closedOnce transport] := rfl

end Connected

lemma log_apply (severity : Severity) (message : String) (begin : Privileged Services) :
    Setup.log severity message begin =
      (.ok (), { begin with state := begin.state.saying [⟨severity, message⟩] }) := rfl

/-- A cluster that was just connected to is closed once, and without fail. -/
lemma closeCluster_of_new {s : Services} {transport : Transport}
    (h : s.cluster = some { transport }) : closeCluster s = (.ok (), s.givingUp transport) := by
  obtain ⟨endpoint, address, authentication, tls, poolSize, builtElevated⟩ := transport
  rw [closeCluster, h]
  cases authentication <;> rfl

variable {begin : Privileged Services} {endpoint region serviceName : Value} {poolSize : Int}

/-! ### Self-managed clusters -/

/-- What is verified of a cluster, if what is to be trusted can be read. -/
def tlsOf (files : Files) (scheme : Scheme) (insecure : Bool) (caCerts : Value) :
    Except Problem (Option TlsContext) :=
  match scheme with
  | .http => .ok none
  | .https => (TlsContext.build files insecure caCerts).map some

/-- What is said before that is read. -/
def tlsNotices (scheme : Scheme) (endpoint : Value) (insecure : Bool) : List Notice :=
  match scheme with
  | .http => []
  | .https => if insecure then [⟨.warning, insecureNotice endpoint⟩] else []

lemma tlsFor_eq (files : Files) (scheme : Scheme) (endpoint : Value) (insecure : Bool) (caCerts : Value)
    (begin : Privileged Services) :
    tlsFor files scheme endpoint insecure caCerts begin =
      (tlsOf files scheme insecure caCerts,
        { begin with state := begin.state.saying (tlsNotices scheme endpoint insecure) }) := by
  cases scheme with
  | http =>
    rw [tlsNotices, saying_nil]
    rfl
  | https =>
    have hbuild (s : Privileged Services) :
        (do return some (← TlsContext.build files insecure caCerts) : Setup _) s =
          (tlsOf files .https insecure caCerts, s) := by
      rw [Action.bind_apply, Action.lift_apply, tlsOf]
      cases TlsContext.build files insecure caCerts <;> rfl
    cases insecure with
    | true => exact (Action.bind_of_ok rfl _).trans (hbuild _)
    | false =>
      rw [tlsNotices, if_neg Bool.false_ne_true, saying_nil]
      exact hbuild begin

lemma verified_of_tlsOf {files : Files} {scheme : Scheme} {insecure : Bool} {caCerts : Value}
    {tls : Option TlsContext} (h : tlsOf files scheme insecure caCerts = .ok tls) :
    scheme.Verified insecure tls := by
  cases scheme with
  | http =>
    obtain rfl := Except.ok.inj h
    rfl
  | https =>
    obtain ⟨context, hcontext, rfl⟩ := except_map_eq_ok.mp h
    exact ⟨rfl, TlsContext.build_eq_ok hcontext⟩

/-- The ways in which connecting to a self-managed cluster can end. -/
inductive Connecting (env : Environment) (endpoint : Value) (insecure : Bool)
    (begin : Privileged Services) : Except Problem Transport × Privileged Services → Prop where
  | refused (problem : Problem) (notices : List Notice)
      (hnotices : ∀ notice ∈ notices, notice.IsOfConnecting endpoint) :
      Connecting env endpoint insecure begin
        (.error problem, { begin with state := begin.state.saying notices })
  | connected (transport : Transport) (notices : List Notice)
      (hnotices : ∀ notice ∈ notices, notice.IsOfConnecting endpoint)
      (htransport : transport.Reaches env endpoint insecure)
      (hbuilt : transport.builtElevated = true) :
      Connecting env endpoint insecure begin
        (.ok transport, { begin with state := (begin.state.saying notices).withCluster transport })

namespace Connecting

variable {env : Environment} {insecure : Bool}

/-- What is refused at once leaves everything as it is. -/
lemma refused_at_once (problem : Problem) :
    Connecting env endpoint insecure begin (.error problem, begin) := by
  have h : Connecting env endpoint insecure begin
      (.error problem, { begin with state := begin.state.saying [] }) :=
    .refused problem [] (List.forall_mem_nil _)
  rwa [saying_nil] at h

/-- An information may come first. -/
lemma of_saying (message : String) {outcome : Except Problem Transport × Privileged Services}
    (h : Connecting env endpoint insecure
      { begin with state := begin.state.saying [⟨.info, message⟩] } outcome) :
    Connecting env endpoint insecure begin outcome := by
  have hnotices : ∀ notice ∈ [(⟨.info, message⟩ : Notice)], notice.IsOfConnecting endpoint := by
    simp [Notice.IsOfConnecting]
  cases h with
  | refused problem more hmore =>
    rw [saying_saying]
    exact .refused problem _ fun notice hmem =>
      (List.mem_append.mp hmem).elim (hnotices notice) (hmore notice)
  | connected transport more hmore htransport hbuilt =>
    rw [saying_saying]
    exact .connected transport _
      (fun notice hmem => (List.mem_append.mp hmem).elim (hnotices notice) (hmore notice)) htransport
      hbuilt

end Connecting

lemma isOfConnecting_of_tlsNotices {scheme : Scheme} {insecure : Bool} {notice : Notice}
    (h : notice ∈ tlsNotices scheme endpoint insecure) : notice.IsOfConnecting endpoint := by
  cases scheme with
  | http => cases h
  | https =>
    cases insecure with
    | true => exact .inr (List.mem_singleton.mp h)
    | false => cases h

/-- A self-managed cluster is reached where the endpoint says, as the environment and the settings
say. -/
lemma connecting_connect (files : Files) (env : Environment) (endpoint : Value) (insecure : Bool)
    (caCerts : Value) (poolSize : Int) (begin : Privileged Services) :
    Connecting env endpoint insecure begin
      (connect files env endpoint insecure caCerts poolSize begin) := by
  cases hparse : Endpoint.parse endpoint.display with
  | error problem =>
    rw [connect, Action.bind_of_error (by rw [Action.lift_apply, hparse])]
    exact .refused_at_once problem
  | ok address =>
    rw [connect, Action.bind_of_ok (by rw [Action.lift_apply, hparse])]
    have hattach (begin : Privileged Services) : Connecting env endpoint insecure begin
        (Action.privileged (do
          let tls ← tlsFor files address.scheme endpoint insecure caCerts
          let builtElevated ← Action.level
          let authentication := Authentication.ofEnvironment env insecure
          attachCluster { endpoint, address, authentication, tls, poolSize, builtElevated }) begin) := by
      have hnotices : ∀ notice ∈ tlsNotices address.scheme endpoint insecure,
          notice.IsOfConnecting endpoint := fun _ => isOfConnecting_of_tlsNotices
      rw [Action.privileged, Action.bind_apply, tlsFor_eq]
      cases htls : tlsOf files address.scheme insecure caCerts with
      | error problem => exact .refused problem _ hnotices
      | ok tls => exact .connected _ _ hnotices ⟨hparse, rfl, verified_of_tlsOf htls⟩ rfl
    dsimp only
    split
    · rw [Action.bind_of_ok (log_apply _ _ _)]
      exact .of_saying (anonymousNotice endpoint) (hattach _)
    · exact hattach begin

/-! ### Managed clusters -/

/-- What can be signed for. -/
def Signable (region serviceName : Value) : Prop := region.truthy = true ∧ serviceName.truthy = true

/-- The transport of a client that signs its requests. -/
def signingTransport (endpoint : Value) (address : Endpoint) (region serviceName : Value)
    (chain : Credentials.ChainRef) (poolSize : Int) : Transport where
  endpoint
  address
  authentication := .signing chain.credentials region serviceName
  tls := none
  poolSize
  builtElevated := true

lemma signingAddress_of_ok {shown host : String} {port : Nat}
    (h : Endpoint.parseSigning shown = .ok (host, port)) :
    signingAddress (.text shown) = .ok ⟨.https, host, port⟩ := by
  rw [signingAddress, h]
  rfl

lemma signingAddress_of_error {shown : String} {problem : Problem}
    (h : Endpoint.parseSigning shown = .error problem) :
    signingAddress (.text shown) = .error problem := by
  rw [signingAddress, h]
  rfl

variable {chain : Credentials.ChainRef}

/-- Nothing is done for an endpoint that cannot be read. -/
lemma connectSigning_of_error {problem : Problem} (h : signingAddress endpoint = .error problem) :
    connectSigning endpoint region serviceName chain poolSize begin = (.error problem, begin) :=
  Action.bind_of_error (by rw [Action.lift_apply, h]) _

lemma connectSigning_of_not_signable {address : Endpoint} (h : signingAddress endpoint = .ok address)
    (hnot : ¬ Signable region serviceName) :
    connectSigning endpoint region serviceName chain poolSize begin = (.error .badValue, begin) := by
  have hcheck : (!region.truthy || !serviceName.truthy) = true := by
    rw [Signable, not_and_or] at hnot
    simpa using hnot
  rw [connectSigning, Action.bind_of_ok (by rw [Action.lift_apply, h])]
  simp only [hcheck, if_true]
  rfl

lemma connectSigning_of_ok {address : Endpoint} (h : signingAddress endpoint = .ok address)
    (hsign : Signable region serviceName) :
    connectSigning endpoint region serviceName chain poolSize begin =
      (.ok (signingTransport endpoint address region serviceName chain poolSize),
        { begin with
          state := begin.state.withCluster
            (signingTransport endpoint address region serviceName chain poolSize) }) := by
  have hcheck : (!region.truthy || !serviceName.truthy) = false := by
    simp [hsign.1, hsign.2]
  rw [connectSigning, Action.bind_of_ok (by rw [Action.lift_apply, h])]
  simp only [hcheck]
  rfl

end Services

/-! Where settings are wrong, credentials are not the reason. -/

lemma Endpoint.isAuth_of_parseSigning {shown : String} {problem : Problem}
    (h : parseSigning shown = .error problem) : problem.isAuth = false := by
  rw [parseSigning] at h
  split at h
  · cases h; rfl
  · next url hurl =>
    split at h
    · cases h; rfl
    · cases hport : url.port with
      | invalid => rw [hport] at h; cases h; rfl
      | absent => rw [hport] at h; cases h
      | number n => rw [hport] at h; cases h

namespace Services

lemma isAuth_of_signingAddress {endpoint : Value} {problem : Problem}
    (h : signingAddress endpoint = .error problem) : problem.isAuth = false := by
  rw [signingAddress.eq_def] at h
  split at h
  · next shown =>
    cases hparse : Endpoint.parseSigning shown with
    | error reason =>
      rw [hparse] at h
      cases h
      exact Endpoint.isAuth_of_parseSigning hparse
    | ok found => rw [hparse] at h; cases h
  · cases h; rfl

/-- The ways in which connecting to a cluster with signed requests can end. -/
inductive ConnectingSigned (credentials : Credentials.Deferred) (region serviceName : Value)
    (begin : Privileged Services) : Except Problem Transport × Privileged Services → Prop where
  | refused (problem : Problem) (hproblem : problem.isAuth = false) :
      ConnectingSigned credentials region serviceName begin (.error problem, begin)
  | connected (transport : Transport) (htransport : transport.Signs credentials region serviceName)
      (hbuilt : transport.builtElevated = true) :
      ConnectingSigned credentials region serviceName begin
        (.ok transport, { begin with state := begin.state.withCluster transport })

lemma connectingSigned_connectSigning (endpoint region serviceName : Value)
    (chain : Credentials.ChainRef) (poolSize : Int) (begin : Privileged Services) :
    ConnectingSigned chain.credentials region serviceName begin
      (connectSigning endpoint region serviceName chain poolSize begin) := by
  cases haddress : signingAddress endpoint with
  | error problem =>
    rw [connectSigning_of_error haddress]
    exact .refused problem (isAuth_of_signingAddress haddress)
  | ok address =>
    by_cases hsign : Signable region serviceName
    · rw [connectSigning_of_ok haddress hsign]
      exact .connected _ ⟨rfl, rfl⟩ rfl
    · rw [connectSigning_of_not_signable haddress hsign]
      exact .refused .badValue rfl

/-! ### Table services -/

variable {build : TableBuilder} {chain : Credentials.ChainRef}

/-- The client of the table service of a region, as it was built for a chain. -/
def tableClient (region : Value) (chain : Credentials.ChainRef) : TableClient where
  region
  credentials := chain.credentials
  builtElevated := true

lemma connectTable_of_error {problem : Problem} (h : build region = .error problem) :
    connectTable build region chain begin = (.error problem, begin) := by
  rw [connectTable]
  simp only [Action.privileged, Action.bind_apply, load, Action.lift_apply, h]
  rfl

lemma connectTable_of_ok (h : build region = .ok ()) :
    connectTable build region chain begin =
      (.ok (), { begin with state := begin.state.withTable (tableClient region chain) }) := by
  rw [connectTable]
  simp only [Action.privileged, Action.bind_apply, load, Action.lift_apply, h]
  rfl

end Services
end Metastore
