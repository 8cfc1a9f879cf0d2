import Metastore.Service
import Metastore.Value.Mapping

/-!
# Tables

A table service keeps items in tables. An item is a mapping of attributes; all of them but the source make
up the key under which it is kept.
-/

namespace Metastore

/-- A request to a table service. -/
inductive TableRequest where
  | putItem (table : Value) (item : Mapping)
  | getItem (table : Value) (key : Mapping)
  | close
deriving DecidableEq, Repr

/-- The attribute that is no part of an item's key. -/
def sourceAttribute : String := "source"

/-- Items with the tables they are in. -/
abbrev Items := List (Value × Mapping)

namespace Items

/-- The key of an item. -/
def keyOf (item : Mapping) : Mapping := item.erase (.text sourceAttribute)

/-- Whether two keys have the same attributes, in any order. -/
def sameKey (a b : Mapping) : Bool :=
  a.length == b.length && a.all fun (name, v) => b.get? name == some v

/-- The item with a key in a table. -/
def get? (items : Items) (table : Value) (key : Mapping) : Option Mapping :=
  (items.find? fun entry => entry.1 == table && sameKey (keyOf entry.2) key).map (·.2)

/-- Keeps an item. -/
def put : Items → (table : Value) → (item : Mapping) → Items
  | [], table, item => [(table, item)]
  | (t, old) :: rest, table, item =>
    if t = table && sameKey (keyOf old) (keyOf item) then (table, item) :: rest
    else (t, old) :: put rest table item

end Items

namespace TableRequest

/-- The names of the methods. -/
def method : TableRequest → String
  | putItem .. => "put_item"
  | getItem .. => "get_item"
  | close => "close"

/-- Whether the request ends the connection. -/
def isClose : TableRequest → Bool
  | close => true
  | _ => false

/-- What a table service answers. -/
def respond (request : TableRequest) (items : Items) : Value × Items :=
  match request with
  | putItem table item =>
    (.map [(.text "ResponseMetadata", .map [(.text "HTTPStatusCode", .int 200)])], items.put table item)
  | getItem table key =>
    match items.get? table key with
    | some item => (.map [(.text "Item", .map item)], items)
    | none => (.map [], items)
  | close => (.null, items)

end TableRequest

instance : Requests TableRequest Items := ⟨TableRequest.method, TableRequest.respond⟩

/-- A table service. -/
abbrev TableService := Service TableRequest Items

end Metastore
