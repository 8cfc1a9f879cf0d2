import Metastore.Problem
import Metastore.Text.Blank
import Metastore.Text.Case
import Metastore.Value.Display
import Metastore.Value.Mapping

/-!
# Backends

The kinds of store that metadata can be kept in, their spellings, and the settings that select and describe
one. A kind may be spelled with white space, underscores and hyphens anywhere and in any letter case.
-/

namespace Metastore

/-- Where metadata is kept. -/
inductive Backend where
  /-- The caller's own store. -/
  | local
  /-- A remote search cluster. -/
  | remote
  /-- A managed search service, reached with signed requests. -/
  | cloud
  /-- A key-value table service, with a managed search service for searches. -/
  | keyValue
deriving DecidableEq, Repr

namespace Backend

/-- The name of a kind. -/
def name : Backend → String
  | «local» => "local"
  | remote => "remote"
  | cloud => "cloud"
  | keyValue => "keyvalue"

/-- The spellings of each kind, in lower case and without separators. -/
def aliases : List (String × Backend) :=
  [("local", .local), ("remote", .remote), ("remoteopensearch", .remote), ("cloud", .cloud),
   ("awsopensearchservice", .cloud), ("keyvalue", .keyValue), ("awsdynamodb", .keyValue)]

/-- Characters that do not matter in a spelling. -/
def isSeparator (c : Char) : Bool := Text.isBlank c || c = '_' || c = '-'

/-- A spelling without separators and in lower case. -/
def normalize (cs : List Char) : List Char := Text.lowerAfter [] (cs.filter (!isSeparator ·))

/-- The kind that a spelling is known for. -/
def ofSpelling? (s : String) : Option Backend :=
  aliases.lookup (String.ofList (normalize s.toList))

/-- The kind that a setting selects: the caller's own store if the setting is missing, blank or unknown. -/
def ofSetting : Value → Except Problem Backend
  | .text s => .ok ((ofSpelling? s).getD .local)
  | v => if v.truthy then .error .wrongType else .ok .local

/-- Whether a setting deserves a warning: it is not blank and, trimmed and in lower case, is not the name
of the caller's own store. -/
def isUnknown (s : String) : Bool :=
  let trimmed := Text.trim s
  !trimmed.isEmpty && Text.lower trimmed != Backend.local.name

end Backend

/-! ### Names of settings -/

namespace Setting

/-- Selects the kind of backend. -/
def kind : String := "metadata-type"

/-- Where the backend is reached. -/
def endpoint : String := "endpoint"

/-- The region that requests are signed for. -/
def region : String := "region"

/-- The service that requests are signed for. -/
def serviceName : String := "service-name"

/-- The field in which documents keep their tenant. -/
def tenantField : String := "tenant-id-field"

/-- Switches multi-tenancy on. -/
def multiTenancy : String := "multi-tenancy"

/-- Switches verification off and allows the built-in user. -/
def insecure : String := "insecure"

/-- The file with the authorities that are trusted. -/
def caCerts : String := "ca-certs"

/-- Whether a setting is switched on: it reads `true` in some letter case. -/
def isOn (v : Value) : Bool := !v.isNull && Text.lower v.display == "true"

/-- Whether a setting is missing or consists of white space. -/
def isBlank (v : Value) : Bool := v.isNull || (Text.trim v.display).isEmpty

end Setting

/-- The settings of a backend. Those that are passed on as they are may be of any type. -/
structure BackendSettings where
  backend : Backend
  endpoint : Value
  region : Value
  serviceName : Value
  tenantField : Value
  multiTenancy : Bool
  insecure : Bool
  caCerts : Value
deriving DecidableEq, Repr

/-- Reads the settings of a backend. -/
def BackendSettings.ofMapping (settings : Mapping) : Except Problem BackendSettings := do
  let backend ← Backend.ofSetting (settings.getText Setting.kind)
  return {
    backend
    endpoint := settings.getText Setting.endpoint
    region := settings.getText Setting.region
    serviceName := settings.getText Setting.serviceName
    tenantField := settings.getText Setting.tenantField
    multiTenancy := Setting.isOn (settings.getText Setting.multiTenancy)
    insecure := Setting.isOn (settings.getText Setting.insecure)
    caCerts := (settings.getText Setting.caCerts).orElse .null }

namespace Setting

/-- An endpoint that has to be given. -/
def requireEndpoint (client : String) (endpoint : Value) : Except Problem Unit :=
  if isBlank endpoint then .error (.config (.endpointRequired client)) else .ok ()

/-- An endpoint and a region that have to be given, and a service that requests can be signed for. -/
def requireSigning (client : String) (endpoint region serviceName : Value) : Except Problem Unit :=
  if isBlank endpoint || isBlank region then
    .error (.config (.endpointAndRegionRequired client))
  else if signingServices.any fun s => serviceName.same (.text s) then .ok ()
  else .error (.config (.serviceUnsupported client))

end Setting
end Metastore
