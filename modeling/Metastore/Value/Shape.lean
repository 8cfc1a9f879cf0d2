import Metastore.Problem
import Metastore.Value.Mapping

/-!
# Shapes of values

Reading a value as something it may not be: a mapping, a sequence, a pair. Each reading says exactly which
values it takes and which problem the others are.
-/

namespace Metastore.Value

/-- The entries of a value whose members are about to be asked for. -/
def members : Value → Except Problem Mapping
  | .map entries => .ok entries
  | _ => .error .notAMapping

/-- The elements of a value that is gone through: the items of a list, the parts of an entry, the characters
of a text, the keys of a mapping. -/
def elements : Value → Except Problem (List Value)
  | .list items => .ok items
  | .entry key value => .ok [key, value]
  | .text s => .ok (s.toList.map fun c => .text (String.singleton c))
  | .map entries => .ok (entries.map (·.1))
  | _ => .error .wrongType

/-- The two parts of a value that has exactly two elements. -/
def pair (v : Value) : Except Problem (Value × Value) := do
  match ← v.elements with
  | [a, b] => return (a, b)
  | _ => throw .badValue

/-- The entries of a list of pairs. -/
def pairEntries (m : Mapping) : List Value → Except Problem Mapping
  | [] => .ok m
  | v :: rest => do
    let (key, value) ← v.pair
    if !key.isKey then throw .wrongType
    pairEntries (m.set key value) rest

/-- A mapping with the contents of a value: of another mapping, or of a list of pairs. -/
def toMapping : Value → Except Problem Mapping
  | .map entries => .ok entries
  | .list items => pairEntries [] items
  | .entry key value => pairEntries [] [key, value]
  | .text s => pairEntries [] (s.toList.map fun c => .text (String.singleton c))
  | _ => .error .wrongType

/-- A mapping that is extended and must be one already. -/
def spread : Value → Except Problem Mapping
  | .map entries => .ok entries
  | _ => .error .wrongType

/-- The value at a text key, where the key must exist. -/
def item (v : Value) (name : String) : Except Problem Value :=
  match v with
  | .map entries => match Mapping.getText? entries name with
    | some w => .ok w
    | none => .error .missingKey
  | _ => .error .wrongType

/-- An entry set in a mapping, where the key must be one that mappings take. -/
def setEntry (m : Mapping) (key value : Value) : Except Problem Mapping :=
  if key.isKey then .ok (m.set key value) else .error .wrongType

/-- A mapping with one entry. -/
def singleton (key value : Value) : Except Problem Value :=
  if key.isKey then .ok (.map [(key, value)]) else .error .wrongType

end Metastore.Value
