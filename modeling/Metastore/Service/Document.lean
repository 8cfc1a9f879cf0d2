import Metastore.Service
import Metastore.Value.Mapping

/-!
# Document stores

A document store keeps documents by index and identifier. It takes single documents and lists of them, gives
a document back with a note on whether it was found, and answers searches.
-/

namespace Metastore

/-- A document in a list of documents to be stored. -/
structure BulkLine where
  index : Value
  id : Value
  document : Mapping
deriving DecidableEq, Repr

/-- The part of a line that says where its document goes. -/
def BulkLine.action (line : BulkLine) : Value :=
  .map [(.text "index", .map [(.text "_index", line.index), (.text "_id", line.id)])]

/-- A request to a document store. -/
inductive DocumentRequest where
  | put (index id : Value) (document : Mapping)
  | get (index id : Value)
  | search (index : Value) (body : Mapping)
  | bulk (lines : List BulkLine)
  | close
deriving DecidableEq, Repr

/-- The documents of a store, by index and identifier. -/
abbrev Documents := List ((Value × Value) × Value)

namespace Documents

/-- The document with an identifier in an index. -/
def get? (documents : Documents) (index id : Value) : Option Value := documents.lookup (index, id)

/-- Stores a document. -/
def put : Documents → (index id document : Value) → Documents
  | [], index, id, document => [((index, id), document)]
  | (key, old) :: rest, index, id, document =>
    if key = (index, id) then (key, document) :: rest else (key, old) :: put rest index id document

theorem get?_put_self (documents : Documents) (index id document : Value) :
    (documents.put index id document).get? index id = some document := by
  induction documents with
  | nil => simp [put, get?]
  | cons entry rest ih =>
    obtain ⟨key, old⟩ := entry
    simp only [put]
    by_cases h : key = (index, id)
    · simp [h, get?]
    · have h' : ((index, id) == key) = false := by simpa using Ne.symm h
      simpa [h, get?, List.lookup_cons, h'] using ih

theorem get?_put_of_ne (documents : Documents) {index id index' id' : Value} (document : Value)
    (h : (index, id) ≠ (index', id')) :
    (documents.put index id document).get? index' id' = documents.get? index' id' := by
  induction documents with
  | nil =>
    have h' : ((index', id') == (index, id)) = false := by simpa using Ne.symm h
    simp [put, get?, List.lookup_cons, h']
  | cons entry rest ih =>
    obtain ⟨key, old⟩ := entry
    simp only [put]
    by_cases hk : key = (index, id)
    · have h' : ((index', id') == (index, id)) = false := by simpa using Ne.symm h
      simp [hk, get?, List.lookup_cons, h']
    · simp only [hk, if_false, get?, List.lookup_cons] at ih ⊢
      split <;> simp_all

end Documents

namespace DocumentRequest

/-- The names of the methods. -/
def method : DocumentRequest → String
  | .put .. => "index"
  | .get .. => "get"
  | .search .. => "search"
  | .bulk .. => "bulk"
  | .close => "close"

/-- Whether the request ends the connection. -/
def isClose : DocumentRequest → Bool
  | close => true
  | _ => false

/-- What a document store answers. -/
def respond (request : DocumentRequest) (documents : Documents) : Value × Documents :=
  match request with
  | .put index id document =>
    (.map [(.text "_index", index), (.text "_id", id), (.text "result", .text "created")],
      documents.put index id (.map document))
  | .get index id =>
    let place := [(Value.text "_index", index), (.text "_id", id)]
    match documents.get? index id with
    | some document => (.map (place ++ [(.text "found", .bool true), (.text "_source", document)]), documents)
    | none => (.map (place ++ [(.text "found", .bool false)]), documents)
  | .search _ _ => (.map [(.text "hits", .map [(.text "hits", .list [])])], documents)
  | .bulk lines =>
    (.map [(.text "errors", .bool false), (.text "items", .list (lines.map BulkLine.action))],
      lines.foldl (fun docs line => docs.put line.index line.id (.map line.document)) documents)
  | .close => (.null, documents)

end DocumentRequest

instance : Requests DocumentRequest Documents := ⟨DocumentRequest.method, DocumentRequest.respond⟩

/-- A document store. -/
abbrev DocumentService := Service DocumentRequest Documents

end Metastore
