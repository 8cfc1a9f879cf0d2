import Metastore.Backend
import Metastore.Client
import Metastore.Config.Settings
import Metastore.Services.Connect

/-!
# Creating clients

Creating the client that settings describe. What a remote backend needs is checked before anything is
connected to; credentials are not looked up before the first request. If a client cannot be created, what
was connected to for it has been closed.
-/

namespace Metastore

/-- What clients are created with, besides their settings. -/
structure Surroundings where
  files : Files := []
  env : Environment := []
  /-- The sources that a chain of credentials is made of. -/
  sources : List Source := []
  /-- How clients of table services are built. -/
  buildTable : Services.TableBuilder := fun _ => .ok ()
  schemaRegistry : Value := .null

namespace Client

/-- What the client of a self-managed cluster is called where its settings are wrong. -/
def remoteName : String := "Remote OpenSearch"

/-- Takes a chain of credentials into use, if it could be made. -/
def takeChain : Except Problem Credentials.Chain → Setup Credentials.ChainRef
  | .ok chain => fun s =>
    (.ok ⟨s.state.chains.length⟩,
      { s with state := { s.state with chains := s.state.chains ++ [chain] } })
  | .error problem => throw problem

/-- Makes the chain of credentials. -/
def openChain (around : Surroundings) : Setup Credentials.ChainRef :=
  takeChain (.ok { sources := around.sources })

/-- Connects to the search cluster of a managed service. -/
def cloudSearch (settings : BackendSettings) (chain : Credentials.ChainRef) : Setup ClusterBackend := do
  let transport ← Services.connectSigning settings.endpoint settings.region settings.serviceName chain
    Transport.defaultPoolSize
  return { transport, tenantField := settings.tenantField }

/-- Does something that, if it fails, has the search cluster closed. A request to stop leaves it open. -/
def closingOnFailure (action : Setup Unit) : Setup Unit := fun s =>
  match action s with
  | (.ok (), s) => (.ok (), s)
  | (.error problem, s) =>
    if problem.isOrdinary then
      let (closing, state) := Services.closeCluster s.state
      (match closing with
        | .ok () => .error problem
        | .error f => .error f.problem, { s with state })
    else (.error problem, s)

/-- What is logged where the kind of a backend is not known. -/
def unknownNotice (kind : Value) : String :=
  "Unknown metadata type " ++ kind.quoted ++ ", falling back to local cluster"

/-- The delegate of the caller's own store. -/
def createLocal (around : Surroundings) (kind : Value) (settings : BackendSettings) : Setup Delegate := do
  if (kind.text?.map Backend.isUnknown).getD false then Setup.log .warning (unknownNotice kind)
  Setup.log .info "Using local opensearch cluster as metadata store"
  return .callerStore around.schemaRegistry settings.tenantField

/-- The delegate of a self-managed cluster. -/
def createRemote (around : Surroundings) (settings : BackendSettings) : Setup Delegate := do
  Setting.requireEndpoint remoteName settings.endpoint
  Setup.log .info "Using remote opensearch cluster as metadata store"
  let transport ← Services.connect around.files around.env settings.endpoint settings.insecure
    settings.caCerts Transport.defaultPoolSize
  return .cluster { transport, tenantField := settings.tenantField }

/-- The delegate of a managed search service, whose requests are signed with the credentials of the chain
that `opening` makes. -/
def createCloud (opening : Setup Credentials.ChainRef) (kind : Value) (settings : BackendSettings) :
    Setup Delegate := do
  Setting.requireSigning kind.display settings.endpoint settings.region settings.serviceName
  Setup.log .info "Using remote AWS OpenSearch Service cluster as metadata store"
  return .cluster (← cloudSearch settings (← opening))

/-- The delegate of a table service with a managed search service; both are given the chain of credentials that
`opening` makes. -/
def createKeyValue (opening : Setup Credentials.ChainRef) (around : Surroundings) (kind : Value)
    (settings : BackendSettings) : Setup Delegate := do
  Setting.requireSigning kind.display settings.endpoint settings.region settings.serviceName
  Setup.log .info "Using DynamoDB as metadata store"
  let chain ← opening
  let search ← cloudSearch settings chain
  closingOnFailure (Services.connectTable around.buildTable settings.region chain)
  return .table settings.region search settings.tenantField

/-- Creates the client that settings describe, with the chain of credentials that `opening` makes if one is
needed. -/
def createOpening (opening : Setup Credentials.ChainRef) (around : Surroundings) (settings : Mapping) :
    Setup Client := do
  let read ← BackendSettings.ofMapping settings
  let kind := settings.getText Setting.kind
  let delegate ← match read.backend with
    | .local => createLocal around kind read
    | .remote => createRemote around read
    | .cloud => createCloud opening kind read
    | .keyValue => createKeyValue opening around kind read
  return { delegate, multiTenancy := read.multiTenancy }

/-- Creates the client that settings describe. -/
def create (around : Surroundings) (settings : Mapping) : Setup Client :=
  createOpening (openChain around) around settings

/-- Creates the client that a configuration describes. -/
def createFromConfig (around : Surroundings) (config : Config) : Setup Client := do
  create around (← config.settings)

/-- A client on the caller's own store. -/
def onCallerStore (schemaRegistry tenantField multiTenancy : Value) : Client :=
  { delegate := .callerStore schemaRegistry tenantField, multiTenancy := multiTenancy.truthy }

end Client
end Metastore
