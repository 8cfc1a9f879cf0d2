import Metastore.Value.Display
import Metastore.Value.Mapping
import Metastore.Yaml.Node
import Metastore.Yaml.Scalar

/-!
# Values of nodes

The value that a node stands for. First the entries of merged mappings are put in front of the entries of the
mapping that they are merged into, so that its own entries prevail; then each node gets its value by its tag.
-/

namespace Metastore.Yaml.Node

/-- The kind that a tag of the usual ones names, or else the whole tag. -/
def kind (node : Node) : String :=
  match usualTagStart.toList.isPrefixOf? node.tag.toList with
  | some rest => String.ofList rest
  | none => node.tag

/-! ### Merging -/

/-- The entries of a mapping. -/
def entries? : Node → Option (List (Node × Node))
  | mapping _ entries => some entries
  | _ => none

/-- The entries that a merged node gives: those of a mapping, or of a sequence of mappings, the last of which
comes first. -/
def mergeEntries : Node → Except Problem (List (Node × Node))
  | mapping _ entries => .ok entries
  | sequence _ items =>
    match items.mapM entries? with
    | some all => .ok all.reverse.flatten
    | none => .error .badYaml
  | text .. => .error .badYaml

mutual

/-- A node in which all merges have been carried out. -/
def merged : Node → Except Problem Node
  | text tag s => .ok (text tag s)
  | sequence tag items => do return sequence tag (← mergedItems items)
  | mapping tag entries => do
    let (others, own) ← mergedEntries entries
    return mapping tag (others ++ own)

/-- Items in which all merges have been carried out. -/
def mergedItems : List Node → Except Problem (List Node)
  | [] => .ok []
  | item :: rest => do return (← merged item) :: (← mergedItems rest)

/-- The entries that are merged into a mapping, and its own. -/
def mergedEntries : List (Node × Node) → Except Problem (List (Node × Node) × List (Node × Node))
  | [] => .ok ([], [])
  | (key, value) :: rest => do
    let key ← merged key
    let value ← merged value
    let (others, own) ← mergedEntries rest
    if key.kind = "merge" then return ((← mergeEntries value) ++ others, own)
    else return (others, (key, value) :: own)

end

/-! ### Values -/

mutual

/-- The text of a node: a mapping has that of its default entry. -/
def text? : Node → Option String
  | text _ s => some s
  | sequence .. => none
  | mapping _ entries => defaultText? entries

/-- The text of the default entry, whose key is an equals sign. -/
def defaultText? : List (Node × Node) → Option String
  | [] => none
  | (key, value) :: rest => if key.kind = "value" then text? value else defaultText? rest

end

/-- The kinds whose values are read from a text. -/
def isTextKind (kind : String) : Bool :=
  ["null", "bool", "int", "float", "binary", "timestamp", "str"].contains kind

/-- The value of a node by its text. -/
def textValue (node : Node) : Except Problem Value :=
  match node.text? with
  | some s => Scalar.value node.kind s
  | none => .error .badYaml

/-- A key, where an equals sign is a text like any other. -/
def asKey : Node → Node
  | text tag s => if (text tag s).kind = "value" then text (usualTag "str") s else text tag s
  | node => node

/-- A set of values, which only passes through. -/
def setValue (entries : Mapping) : Value := .foreign (.set (entries.map fun e => e.1.quoted))

mutual

/-- The value of a node. -/
def value : Node → Except Problem Value
  | text tag s => textValue (text tag s)
  | sequence tag items =>
    let node := sequence tag items
    if node.kind = "seq" then (itemValues items).map .list
    else if node.kind = "omap" || node.kind = "pairs" then (pairValues items).map .list
    else .error .badYaml
  | mapping tag entries =>
    let node := mapping tag entries
    if node.kind = "map" then (entryValues [] entries).map .map
    else if node.kind = "set" then (entryValues [] entries).map setValue
    else if isTextKind node.kind then textValue node
    else .error .badYaml

/-- The values of items. -/
def itemValues : List Node → Except Problem (List Value)
  | [] => .ok []
  | item :: rest => do return (← value item) :: (← itemValues rest)

/-- The values of items that are mappings with one entry each, as entries. -/
def pairValues : List Node → Except Problem (List Value)
  | [] => .ok []
  | mapping _ [(key, v)] :: rest => do
    let entry := Value.entry (← value key) (← value v)
    return entry :: (← pairValues rest)
  | _ :: _ => .error .badYaml

/-- A mapping with the values of further entries. -/
def entryValues (m : Mapping) : List (Node × Node) → Except Problem Mapping
  | [] => .ok m
  | (key, v) :: rest => do
    let k ← match key with
      | text tag s => textValue (asKey (text tag s))
      | node => value node
    if !k.isKey then throw .badYaml
    entryValues (m.set k (← value v)) rest

end

end Metastore.Yaml.Node
