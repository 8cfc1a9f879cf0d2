import Metastore.Client.Items

/-!
# Clients

A client keeps metadata in the caller's own store, in a search cluster, or as items of a table with a search
cluster for searches. Tenants are passed on only by a client with multi-tenancy. A failure of a remote
service comes out as the credential problem behind it, if there is one.
-/

namespace Metastore

/-- A search cluster as a backend. -/
structure ClusterBackend where
  transport : Transport
  tenantField : Value
deriving DecidableEq, Repr

/-- Where a client keeps metadata. -/
inductive Delegate where
  /-- The caller's own store, which the caller also closes. -/
  | callerStore (schemaRegistry tenantField : Value)
  | cluster (backend : ClusterBackend)
  /-- Items of a table in a region, and a search cluster for searches. -/
  | table (region : Value) (search : ClusterBackend) (tenantField : Value)
deriving DecidableEq, Repr

/-- The kinds of delegates. -/
inductive DelegateKind where
  | local
  | remoteCluster
  | cloudSearch
  | keyValue
deriving DecidableEq, Repr

/-- The name of a kind. -/
def DelegateKind.name : DelegateKind → String
  | «local» => "local"
  | remoteCluster => "remote_cluster"
  | cloudSearch => "cloud_search"
  | keyValue => "key_value"

/-- The kind of a search cluster. -/
def ClusterBackend.kind (backend : ClusterBackend) : DelegateKind :=
  if backend.transport.isSigned then .cloudSearch else .remoteCluster

namespace Delegate

/-- The kind of a delegate. -/
def kind : Delegate → DelegateKind
  | callerStore .. => .local
  | cluster backend => backend.kind
  | table .. => .keyValue

/-- The field for the tenant. -/
def tenantField : Delegate → Value
  | callerStore _ field => field
  | cluster backend => backend.tenantField
  | table _ _ field => field

/-- Stores a document. -/
def put (delegate : Delegate) (index id document tenant : Value) : Action Services Failure Value :=
  match delegate with
  | callerStore _ field => Target.callerStore.put field index id document tenant
  | cluster backend =>
    Failure.surfacing (Target.cluster.put backend.tenantField index id document tenant)
  | table _ _ field => Item.put field index id document tenant

/-- Gets a document, or null. -/
def get (delegate : Delegate) (index id tenant : Value) : Action Services Failure Value :=
  match delegate with
  | callerStore _ field => Target.callerStore.get field index id tenant
  | cluster backend => Failure.surfacing (Target.cluster.get backend.tenantField index id tenant)
  | table _ _ field => Item.get field index id tenant

/-- Searches for documents. -/
def search (delegate : Delegate) (index body tenant : Value) : Action Services Failure Value :=
  match delegate with
  | callerStore _ field => Target.callerStore.search field index body tenant
  | cluster backend | table _ backend _ =>
    Failure.surfacing (Target.cluster.search backend.tenantField index body tenant)

/-- Stores a list of documents. -/
def bulk (delegate : Delegate) (index documents tenant : Value) : Action Services Failure Value :=
  match delegate with
  | callerStore _ field => Target.callerStore.bulk field index documents tenant
  | cluster backend =>
    Failure.surfacing (Target.cluster.bulk backend.tenantField index documents tenant)
  | table _ _ field => Item.bulk field index documents tenant

/-- Closes what was connected to. A search cluster is closed once; the one of a table also if closing the
table fails. -/
def close : Delegate → Action Services Failure Unit
  | callerStore .. => return ()
  | cluster _ => Services.closeCluster
  | table .. => fun s =>
    let (tableResult, s) := Services.callTable .close s
    let (clusterResult, s) := Services.closeCluster s
    (match clusterResult with
      | .ok () => tableResult.map fun _ => ()
      | .error f => .error f, s)

end Delegate

/-- A client. -/
structure Client where
  delegate : Delegate
  multiTenancy : Bool := false
deriving DecidableEq, Repr

namespace Client

/-- The kind of a client. -/
def kind (client : Client) : DelegateKind := client.delegate.kind

/-- The field for the tenant. -/
def tenantField (client : Client) : Value := client.delegate.tenantField

/-- A tenant as it is passed on. -/
def tenant (client : Client) (tenant : Value) : Value := if client.multiTenancy then tenant else .null

/-- Stores a document for a tenant. -/
def put (client : Client) (index id document tenant : Value) : Action Services Failure Value :=
  client.delegate.put index id document (client.tenant tenant)

/-- Gets a tenant's document, or null. -/
def get (client : Client) (index id tenant : Value) : Action Services Failure Value :=
  client.delegate.get index id (client.tenant tenant)

/-- Searches among a tenant's documents. -/
def search (client : Client) (index body tenant : Value) : Action Services Failure Value :=
  client.delegate.search index body (client.tenant tenant)

/-- Stores a list of documents for a tenant. -/
def bulk (client : Client) (index documents tenant : Value) : Action Services Failure Value :=
  client.delegate.bulk index documents (client.tenant tenant)

/-- Closes the client. -/
def close (client : Client) : Action Services Failure Unit := client.delegate.close

/-- Uses the client for an action and closes it afterwards, also if the action fails. -/
def during {α : Type} (client : Client) (action : Action Services Failure α) : Action Services Failure α :=
  fun s =>
    let (result, s) := action s
    let (closing, s) := client.close s
    (match closing with
      | .ok () => result
      | .error f => .error f, s)

end Client
end Metastore
