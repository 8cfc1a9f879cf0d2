import Metastore.Services
import Metastore.Value.Display

/-!
# Connecting

Connecting to a search cluster, with or without signed requests, and to a table service. Everything about an
endpoint is checked first; the client itself is built with privilege. What cannot be connected to leaves no
client behind.
-/

namespace Metastore

/-- An action that sets up services, with a level of privilege. -/
abbrev Setup := Action (Privileged Services) Problem

namespace Setup

/-- Adds a notice to the log. -/
def log (severity : Severity) (message : String) : Setup Unit :=
  .change fun s => { s with log := s.log ++ [⟨severity, message⟩] }

end Setup

namespace Services

/-! ### Search clusters -/

/-- What is logged where a cluster is used without user name and password. -/
def anonymousNotice (endpoint : Value) : String :=
  "no basic auth credentials for " ++ endpoint.display ++ " (" ++ Authentication.userName ++ "/"
    ++ Authentication.passwordName ++ " unset)"

/-- What is logged where a cluster is not verified. -/
def insecureNotice (endpoint : Value) : String :=
  "TLS certificate and hostname verification disabled for " ++ endpoint.display

/-- What is verified of a cluster: nothing is encrypted over http. -/
def tlsFor (files : Files) (scheme : Scheme) (endpoint : Value) (insecure : Bool) (caCerts : Value) :
    Setup (Option TlsContext) :=
  match scheme with
  | .http => return none
  | .https => do
    if insecure then Setup.log .warning (insecureNotice endpoint)
    return some (← TlsContext.build files insecure caCerts)

/-- The services with a search cluster that is reached through a transport from now on. -/
def withCluster (s : Services) (transport : Transport) : Services :=
  { s with earlierClusters := s.clusters, cluster := some { transport } }

/-- Keeps a transport as the one through which the search cluster is reached. -/
def attachCluster (transport : Transport) : Setup Transport := do
  Action.change (·.withCluster transport)
  return transport

/-- Connects to a self-managed cluster. -/
def connect (files : Files) (env : Environment) (endpoint : Value) (insecure : Bool) (caCerts : Value)
    (poolSize : Int) : Setup Transport := do
  let address ← Endpoint.parse endpoint.display
  let authentication := Authentication.ofEnvironment env insecure
  if authentication = .anonymous then Setup.log .info (anonymousNotice endpoint)
  Action.privileged do
    let tls ← tlsFor files address.scheme endpoint insecure caCerts
    let builtElevated ← Action.level
    attachCluster { endpoint, address, authentication, tls, poolSize, builtElevated }

/-- The endpoint of a cluster that is reached with signed requests, which has to be a text. -/
def signingAddress : Value → Except Problem Endpoint
  | .text s => (Endpoint.parseSigning s).map fun (host, port) => ⟨.https, host, port⟩
  | _ => .error .wrongType

/-- Connects to a cluster that is reached with requests that are signed with the credentials of a chain. -/
def connectSigning (endpoint region serviceName : Value) (chain : Credentials.ChainRef) (poolSize : Int) :
    Setup Transport := do
  let address ← signingAddress endpoint
  Action.privileged do
    if !region.truthy || !serviceName.truthy then throw .badValue
    let builtElevated ← Action.level
    let authentication := Authentication.signing chain.credentials region serviceName
    attachCluster { endpoint, address, authentication, tls := none, poolSize, builtElevated }

/-! ### Table services -/

/-- What comes of building the client of the table service of a region. The library that builds it decides. -/
abbrev TableBuilder := Value → Except Problem Unit

/-- The credentials that a provider gives to a session. -/
def load (provider : Credentials.Provider) : Setup Credentials.Deferred :=
  return provider.chain.credentials

/-- The services with a table service that is reached from now on. -/
def withTable (s : Services) (table : TableClient) : Services :=
  { s with earlierTables := s.tables, table := some table }

/-- Connects to the table service of a region, in a session with the provider of a chain as its only one. -/
def connectTable (build : TableBuilder) (region : Value) (chain : Credentials.ChainRef) : Setup Unit :=
  Action.privileged do
    let credentials ← load chain.provider
    build region
    let builtElevated ← Action.level
    Action.change (·.withTable { region, credentials, builtElevated })

end Services
end Metastore
