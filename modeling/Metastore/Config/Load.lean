import Metastore.Config.Merge
import Metastore.Config.Settings
import Metastore.Environment.Override
import Metastore.Environment.Placeholder
import Metastore.Files
import Metastore.Yaml

/-!
# Loading configurations

A configuration is loaded from a file, whose placeholders are replaced, over which the overrides from the
environment are laid; the defaults lie under both. A file that does not exist is like an empty one.
-/

namespace Metastore.Config

/-- Where a configuration is looked for if nothing else is said. -/
def defaultPath : String := "./config.yml"

/-- Where a process looks for its configuration: where its environment says, or in the usual place. -/
def homePath (env : Environment) : String :=
  (env.value? (Environment.overrideStart ++ Environment.locationName)).getD defaultPath

/-- What holds where neither file nor environment says otherwise. -/
def defaults : Value :=
  .map [
    (.text sectionName, .map [
      (.text "type", .text ""), (.text "multi_tenancy", .bool false), (.text "insecure", .bool false)]),
    (.text "log", .map [(.text "level", .text "INFO")])]

/-- The value of a file; a file that is missing, or has nothing in it that counts, is an empty mapping. -/
def fileValue (files : Files) (path : String) : Except Problem Value :=
  match files.read? path with
  | some bytes => (Yaml.ofBytes bytes).map (·.orElse (.map []))
  | none => .ok (.map [])

/-- The configuration that a file's value and the environment give together. -/
def assemble (env : Environment) (file : Value) : Except Problem Config := do
  let overrides ← env.overrideTree Environment.overrideStart
  match ← merge (← merge defaults (env.resolve file)) overrides with
  | .map root => return ⟨root⟩
  | _ => throw .wrongType

/-- Loads a configuration. -/
def load (files : Files) (env : Environment) (path : String) : Except Problem Config := do
  assemble env (← fileValue files path)

/-- A configuration with given contents, or loaded from a path if there are none. -/
def create (files : Files) (env : Environment) (home : String) (data : Value) (path : String) :
    Except Problem Config :=
  if data.isNull then load files env (if path.isEmpty then home else path)
  else data.toMapping.map Config.mk

end Metastore.Config
