import Metastore.Environment
import Metastore.Config.Tree
import Metastore.Text.Case

/-!
# Overrides from the environment

Environment variables with a common beginning override the configuration: the rest of the name, in lower
case, is a path whose keys are separated by two underscores. The words for truth values, in any letter
case, become truth values; any other value is taken as it is.
-/

namespace Metastore.Environment

/-- The beginning of the names of overrides. -/
def overrideStart : String := "REMETA_"

/-- The rest of the one name that is no override: it says where the configuration is. -/
def locationName : String := "CONFIG"

/-- A text as a setting: a truth value if it is the word for one. -/
def coerce (s : String) : Value :=
  let word := Text.lower s
  if word == "true" then .bool true
  else if word == "false" then .bool false
  else .text s

/-- A value as a setting. -/
def coerceValue : Value → Value
  | .text s => coerce s
  | v => v

/-- The path that a variable overrides, if it is an override. -/
def overridePath? (start name : String) : Option Path :=
  if name = start ++ locationName then none
  else (start.toList.isPrefixOf? name.toList).map fun rest =>
    (Text.splitDoubled '_' (Text.lowerAfter [] rest)).map String.ofList

/-- The overrides among the variables, in order. -/
def overrides (start : String) (env : Environment) : List (Path × Value) :=
  env.filterMap fun (name, value) => (overridePath? start name).map (·, coerce value)

/-- A tree with values set one after another. -/
def insertAll : Value → List (Path × Value) → Except Problem Value
  | tree, [] => .ok tree
  | tree, (path, v) :: rest => do
    let tree ← tree.insertAt path v
    insertAll tree rest

/-- The tree of the overrides. -/
def overrideTree (start : String) (env : Environment) : Except Problem Value :=
  insertAll (.map []) (overrides start env)

end Metastore.Environment
