import Metastore.Client.Documents
import Metastore.Json.Reader
import Metastore.Json.Writer

/-!
# Items of tenants

Storing and getting the documents of tenants as items of a table: an item has the tenant and the identifier
as its key, and the document as JSON text.
-/

namespace Metastore

namespace Failure

/-- An action whose failures have the credential problem behind them brought to the surface. -/
def surfacing {σ α : Type} (action : Action σ Failure α) : Action σ Failure α := fun s =>
  let (result, s) := action s
  (result.mapError Failure.surface, s)

end Failure

namespace Item

/-- The tenant of items for which none is given. -/
def defaultTenant : String := "DEFAULT_TENANT"

/-- The attribute for the tenant where no field is set. -/
def defaultHashKey : String := "tenant_id"

/-- The attribute for the identifier. -/
def rangeKey : String := "id"

/-- A value as the value of an attribute. -/
def textAttribute (v : Value) : Value := .map [(.text "S", v)]

/-- The attribute for the tenant: the tenant field, if there is one. -/
def hashKey (field : Value) : Value := field.orElse (.text defaultHashKey)

/-- The key of an item. -/
def key (field id tenant : Value) : Except Problem Mapping := do
  let tenantPart ← Value.setEntry [] (hashKey field) (textAttribute (tenant.orElse (.text defaultTenant)))
  return tenantPart.setText rangeKey (textAttribute id)

/-- The item for a document. -/
def ofDocument (field id document tenant : Value) : Except Problem Mapping := do
  let key ← key field id tenant
  let source ← Json.encode Json.Style.canonical document
  return key.setText sourceAttribute (textAttribute (.text source))

/-- Stores a document as an item. -/
def put (field table id document tenant : Value) : Action Services Failure Value := do
  let item ← Services.lift (ofDocument field id document tenant)
  Failure.surfacing (Services.callTable (.putItem table item))

/-- The document in the item of a reply, or null where there is none. -/
def documentOf (reply : Value) : Except Problem Value := do
  let item := Mapping.getText (← reply.members) "Item"
  if !item.truthy then return .null
  match ← (← item.item sourceAttribute).item "S" with
  | .text source => Json.decode source
  | _ => throw .wrongType

/-- Gets the document of an item, or null. -/
def get (field table id tenant : Value) : Action Services Failure Value := do
  let key ← Services.lift (key field id tenant)
  let reply ← Failure.surfacing (Services.callTable (.getItem table key))
  Services.lift (documentOf reply)

/-- Stores documents as items, one after another. -/
def putAll (field table tenant : Value) : List Value → Action Services Failure (List Value)
  | [] => return []
  | element :: rest => do
    let (id, document) ← Services.lift element.pair
    let answer ← put field table id document tenant
    return answer :: (← putAll field table tenant rest)

/-- Stores a list of documents as items. -/
def bulk (field table documents tenant : Value) : Action Services Failure Value := do
  let elements ← Services.lift documents.elements
  return Target.bulkAnswer (← putAll field table tenant elements)

end Item
end Metastore
