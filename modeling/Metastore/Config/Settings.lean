import Metastore.Backend
import Metastore.Config.Tree

/-!
# Settings of a configuration

The section of a configuration that describes the backend, as the settings of a backend. A value that is
missing, null or an empty text is left out; any other value is given as a text.
-/

namespace Metastore.Config

/-- The section with the backend's settings. -/
def sectionName : String := "metadata"

/-- The keys of the section, each with the setting it gives. -/
def settingKeys : List (String × String) :=
  [("type", Setting.kind), ("endpoint", Setting.endpoint), ("region", Setting.region),
   ("service_name", Setting.serviceName), ("tenant_id_field", Setting.tenantField),
   ("multi_tenancy", Setting.multiTenancy), ("insecure", Setting.insecure),
   ("ca_certs", Setting.caCerts)]

/-- A value as the text of a setting. -/
def settingText : Value → String
  | .bool b => if b then "true" else "false"
  | v => v.display

/-- The setting that a key of the section gives, if it gives one. -/
def setting? (entries : Mapping) (key name : String) : Option (Value × Value) :=
  let v := entries.getText key
  if v.isNull || v == .text "" then none else some (.text name, .text (settingText v))

/-- The settings that a section gives. -/
def settingsOf (entries : Mapping) : Mapping :=
  settingKeys.filterMap fun (key, name) => setting? entries key name

/-- The settings that a configuration gives. -/
def settings (c : Config) : Except Problem Mapping := do
  let value := (c.lookup [sectionName]).orElse (.map [])
  return settingsOf (← value.members)

end Metastore.Config
