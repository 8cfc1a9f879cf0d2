import Metastore.Value.Shape

/-!
# Tenancy

How a tenant is attached to documents and searches: a document is stored with its tenant in a field, and a
search is narrowed by a filter on that field. Without a field or without a tenant nothing is attached.
-/

namespace Metastore.Tenancy

/-- Whether a tenant is to be attached. -/
def applies (field tenant : Value) : Bool := field.truthy && !tenant.isNull

/-- A document as it is stored: with its field set to the tenant. -/
def stamp (document field tenant : Value) : Except Problem Mapping :=
  if applies field tenant then do
    let entries ← document.spread
    Value.setEntry entries field tenant
  else document.toMapping

/-- The query that matches everything. -/
def matchAll : Value := .map [(.text "match_all", .map [])]

/-- A query narrowed to the documents whose field holds the tenant. -/
def narrowed (query field tenant : Value) : Except Problem Value := do
  let term ← Value.singleton field tenant
  return .map [(.text "bool", .map [
    (.text "must", .list [query]),
    (.text "filter", .list [.map [(.text "term", term)]])])]

/-- A search body narrowed to a tenant; a body without a query matches everything. -/
def scope (body field tenant : Value) : Except Problem Mapping := do
  let entries ← (body.orElse (.map [])).toMapping
  if applies field tenant then
    let query := (entries.getText? "query").getD matchAll
    let narrowedQuery ← narrowed query field tenant
    return (entries.erase (.text "query")).setText "query" narrowedQuery
  else return entries

end Metastore.Tenancy
