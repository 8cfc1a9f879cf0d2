import Metastore.Credentials.Chain
import Metastore.Privilege
import Metastore.Service.Document
import Metastore.Service.Table
import Metastore.Transport

/-!
# The services of a client

Everything that a client reaches and changes: the clock, the log, the chains of credentials, the caller's own
store, and the search cluster and the table service that were connected to for it. A request to a signed
service looks its credentials up once; closing a service needs no signature. Nothing that was made or connected
to is forgotten: a search cluster or table service that another one takes the place of is kept as an earlier
one.
-/

namespace Metastore

/-- How important a notice is. -/
inductive Severity where
  | info
  | warning
deriving DecidableEq, Repr

/-- A notice for the caller's log. -/
structure Notice where
  severity : Severity
  message : String
deriving DecidableEq, Repr

/-- A search cluster with the transport it is reached through. -/
structure Cluster where
  transport : Transport
  service : DocumentService := { contents := [] }
  /-- Whether the transport has been closed. -/
  closed : Bool := false

/-- A table service, reached with requests that are signed for its region. -/
structure TableClient where
  region : Value
  credentials : Credentials.Deferred
  service : TableService := { contents := [] }
  builtElevated : Bool

/-- The service that requests to a table service are signed for. -/
def tableServiceName : String := "dynamodb"

/-- What one client reaches, with all that was made and connected to on the way. -/
structure Services where
  /-- The time, in seconds. -/
  now : Int := 0
  log : List Notice := []
  /-- The chains of credentials that were made, in order. -/
  chains : List Credentials.Chain := []
  callerStore : Option DocumentService := none
  cluster : Option Cluster := none
  table : Option TableClient := none
  /-- The search clusters that were connected to before the present one, in order. -/
  earlierClusters : List Cluster := []
  /-- The table services that were connected to before the present one, in order. -/
  earlierTables : List TableClient := []

namespace Services

/-- The search clusters that were connected to, in order. -/
def clusters (s : Services) : List Cluster := s.earlierClusters ++ s.cluster.toList

/-- The table services that were connected to, in order. -/
def tables (s : Services) : List TableClient := s.earlierTables ++ s.table.toList

/-- How often each source of each chain has been asked. -/
def loads (s : Services) : List (List Nat) := s.chains.map (·.loads)

/-! ### Signing -/

/-- The chain of some credentials. -/
def chainOf? (s : Services) (credentials : Credentials.Deferred) : Option Credentials.Chain :=
  s.chains[credentials.chain.position]?

/-- The services with the chain of some credentials changed. -/
def setChain (s : Services) (credentials : Credentials.Deferred) (chain : Credentials.Chain) : Services :=
  { s with chains := s.chains.set credentials.chain.position chain }

/-- Looks credentials up. -/
def lookUp (credentials : Credentials.Deferred) : Action Services Problem Credentials := fun s =>
  match s.chainOf? credentials with
  | none => (.error (.auth (.noSource [])), s)
  | some chain =>
    let (result, chain) := chain.use s.now
    (result, s.setChain credentials chain)

/-- Signs a request with credentials. -/
def sign (credentials : Credentials.Deferred) (region serviceName : Value) :
    Action Services Problem Signature := do
  let found ← lookUp credentials
  return ⟨found.accessKey, found.token, region, serviceName⟩

/-- The signature of a request to a search cluster, if it needs one. -/
def signFor (transport : Transport) (request : DocumentRequest) :
    Action Services Problem (Option Signature) :=
  match transport.authentication with
  | .signing credentials region serviceName =>
    if request.isClose then return none else some <$> sign credentials region serviceName
  | _ => return none

/-! ### Requests -/

/-- Sends a request to the caller's own store. -/
def callStore (request : DocumentRequest) : Action Services Failure Value := fun s =>
  match s.callerStore with
  | none => (.error (.of .notAMapping), s)
  | some store =>
    let (result, store) := (store.record request none).answer request
    (result, { s with callerStore := some store })

/-- Sends a request to the search cluster. A connection that could not sign fails with the reason as
additional information. -/
def callCluster (request : DocumentRequest) : Action Services Failure Value := fun s =>
  match s.cluster with
  | none => (.error (.of .notAMapping), s)
  | some cluster =>
    match signFor cluster.transport request s with
    | (.error problem, s) =>
      let service := cluster.service.record request none
      (.error (.carrying .connectionFailed (.of problem)),
        { s with cluster := some { cluster with service } })
    | (.ok signature, s) =>
      let (result, service) := (cluster.service.record request signature).answer request
      (result, { s with cluster := some { cluster with service } })

/-- The signature of a request to a table service, if it needs one. -/
def signForTable (credentials : Credentials.Deferred) (region : Value) (request : TableRequest) :
    Action Services Problem (Option Signature) :=
  if request.isClose then return none else some <$> sign credentials region (.text tableServiceName)

/-- Sends a request to the table service. -/
def callTable (request : TableRequest) : Action Services Failure Value := fun s =>
  match s.table with
  | none => (.error (.of .notAMapping), s)
  | some table =>
    match signForTable table.credentials table.region request s with
    | (.error problem, s) =>
      let service := table.service.record request none
      (.error (.of problem), { s with table := some { table with service } })
    | (.ok signature, s) =>
      let (result, service) := (table.service.record request signature).answer request
      (result, { s with table := some { table with service } })

/-- Closes the transport of the search cluster. A transport that is closed already stays closed, also if
closing it failed. -/
def closeCluster : Action Services Failure Unit := fun s =>
  match s.cluster with
  | none => (.ok (), s)
  | some cluster =>
    if cluster.closed then (.ok (), s)
    else
      let (result, s) := callCluster .close { s with cluster := some { cluster with closed := true } }
      (result.map fun _ => (), s)

/-- How often each search cluster that was connected to has been closed. -/
def clusterCloses (s : Services) : List Nat := s.clusters.map (·.service.countCalls "close")

/-- How often each table service that was connected to has been closed. -/
def tableCloses (s : Services) : List Nat := s.tables.map (·.service.countCalls "close")

end Services
end Metastore
