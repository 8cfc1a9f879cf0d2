import Metastore.Value.Shape

/-!
# Merging configurations

One configuration laid over another: mappings are merged entry by entry, at any depth, any other value
replaces what stands at its key, and null replaces nothing.
-/

namespace Metastore.Config

mutual

/-- What stands at a key that held `old` after `new` has been laid over it. -/
def mergeValue (old : Value) : Value → Value
  | .map entries =>
    match old with
    | .map under => .map (mergeEntries under entries)
    | _ => .map entries
  | new => new

/-- The entries of a mapping after others have been laid over them. -/
def mergeEntries (under : Mapping) : List (Value × Value) → Mapping
  | [] => under
  | (k, v) :: rest =>
    if v.isNull then mergeEntries under rest
    else mergeEntries (under.set k (mergeValue (under.get k) v)) rest

end

/-- A value laid over another one, where both have to be mappings or count as empty ones. -/
def merge (under upper : Value) : Except Problem Value := do
  let entries ← under.toMapping
  if upper.truthy then
    let more ← upper.members
    return .map (mergeEntries entries more)
  else return .map entries

end Metastore.Config
