import Metastore.Services
import Metastore.Tenancy

/-!
# Documents of tenants

Storing, getting and searching the documents of tenants in a document store: the caller's own one or the
search cluster. A document of another tenant is reported as missing.
-/

namespace Metastore

namespace Services

/-- An action of the services that may fail for a reason. -/
def lift {α : Type} (result : Except Problem α) : Action Services Failure α := fun s =>
  (result.mapError .of, s)

end Services

/-- The document stores that a client may work on. -/
inductive Target where
  | callerStore
  | cluster
deriving DecidableEq, Repr

namespace Target

/-- Whether the store is there. -/
def isThere (target : Target) (s : Services) : Bool :=
  match target with
  | callerStore => s.callerStore.isSome
  | cluster => s.cluster.isSome

/-- Nothing can be asked of a store that is not there. -/
def reach (target : Target) : Action Services Failure Unit := fun s =>
  (if target.isThere s then .ok () else .error (.of .notAMapping), s)

/-- Sends a request to the store. -/
def call : Target → DocumentRequest → Action Services Failure Value
  | callerStore => Services.callStore
  | cluster => Services.callCluster

/-- Stores a document. -/
def put (target : Target) (field index id document tenant : Value) : Action Services Failure Value := do
  target.reach
  let stamped ← Services.lift (Tenancy.stamp document field tenant)
  target.call (.put index id stamped)

/-- The value that a document has in a field. -/
def fieldOf (document field : Value) : Except Problem Value := do
  let entries ← document.members
  if field.isKey then return Mapping.get entries field else throw .wrongType

/-- The document in a reply, or null where none was found or it is another tenant's. -/
def documentOf (field tenant reply : Value) : Except Problem Value := do
  let entries ← reply.members
  if !((Mapping.getText? entries "found").getD (.bool true)).truthy then return .null
  let document := (Mapping.getText entries "_source").orElse (.map [])
  if Tenancy.applies field tenant then
    let owner ← fieldOf document field
    return if owner.same tenant then document else .null
  else return document

/-- Gets a document, or null. -/
def get (target : Target) (field index id tenant : Value) : Action Services Failure Value := fun s =>
  match target.call (.get index id) s with
  | (.ok reply, s) => Services.lift (documentOf field tenant reply) s
  | (.error f, s) => if f.problem = .documentMissing then (.ok .null, s) else (.error f, s)

/-- Searches among a tenant's documents. -/
def search (target : Target) (field index body tenant : Value) : Action Services Failure Value := do
  target.reach
  let narrowed ← Services.lift (Tenancy.scope body field tenant)
  target.call (.search index narrowed)

/-- The line for an element of a list of documents, which has to be an identifier with a document. -/
def lineOf (field index tenant element : Value) : Except Problem BulkLine := do
  let (id, document) ← element.pair
  return ⟨index, id, ← Tenancy.stamp document field tenant⟩

/-- What is answered where there was nothing or nothing else to do. -/
def bulkAnswer (items : List Value) : Value :=
  .map [(.text "errors", .bool false), (.text "items", .list items)]

/-- Stores a list of documents with one request, or with none if the list is empty. -/
def bulk (target : Target) (field index documents tenant : Value) : Action Services Failure Value := do
  let elements ← Services.lift documents.elements
  let lines ← Services.lift (elements.mapM (lineOf field index tenant))
  if lines.isEmpty then return bulkAnswer []
  target.reach
  target.call (.bulk lines)

end Target
end Metastore
