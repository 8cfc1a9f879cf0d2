import Metastore.Credentials.Chain
import Metastore.Endpoint
import Metastore.Environment
import Metastore.Tls

/-!
# Transports

How a search cluster is reached: where it is, how requests show who sends them, and what is verified of the
other side.
-/

namespace Metastore

/-- How requests show who sends them. -/
inductive Authentication where
  | anonymous
  | basic (user password : String)
  /-- Requests are signed for a region and a service. -/
  | signing (credentials : Credentials.Deferred) (region serviceName : Value)
deriving DecidableEq, Repr

/-- The ways in which a client keeps its connections. -/
inductive ConnectionKind where
  | pooled
  | requests
deriving DecidableEq, Repr

/-- What the client of a search cluster is built with, apart from where the cluster is and who asks. -/
structure ClientOptions where
  connection : ConnectionKind
  poolSize : Int
  /-- Whether connections are encrypted. -/
  isEncrypted : Bool
  /-- Whether the client is told to verify the other side by its own defaults. -/
  verifies : Bool
  /-- What is verified of the other side, where this is not left to the client. -/
  tls : Option TlsContext
deriving DecidableEq, Repr

/-- A way to reach a search cluster. -/
structure Transport where
  /-- The endpoint as it was given. -/
  endpoint : Value
  /-- Where the endpoint is. -/
  address : Endpoint
  authentication : Authentication
  /-- What is verified; signed connections leave this to their own defaults. -/
  tls : Option TlsContext
  /-- The most connections that are kept open. -/
  poolSize : Int
  /-- Whether the client was built with privilege. -/
  builtElevated : Bool
deriving DecidableEq, Repr

namespace Transport

/-- The usual number of connections that are kept open. -/
def defaultPoolSize : Int := 20

/-- Whether requests are signed. -/
def isSigned (transport : Transport) : Bool :=
  match transport.authentication with
  | .signing .. => true
  | _ => false

/-- Whether the connection is encrypted. -/
def isEncrypted (transport : Transport) : Bool := transport.tls.isSome || transport.isSigned

/-- The options that the client of a transport is built with. -/
def options (transport : Transport) : ClientOptions where
  connection := if transport.isSigned then .requests else .pooled
  poolSize := transport.poolSize
  isEncrypted := transport.isEncrypted
  verifies := transport.isSigned
  tls := transport.tls

end Transport

namespace Authentication

/-- The variable that holds the user name. -/
def userName : String := "REMOTE_METADATA_USER"

/-- The variable that holds the password. -/
def passwordName : String := "REMOTE_METADATA_PASSWORD"

/-- The user name and the password of insecure connections for which none are set. -/
def insecureDefault : String := "admin"

/-- A text that is set and not empty, or else the default of insecure connections. -/
def orInsecureDefault (text : Option String) : String :=
  (text.filter (!·.isEmpty)).getD insecureDefault

/-- The user name and password that the environment gives: a user name that is not empty with a password
that is set. Insecure connections fall back on a default for either. -/
def ofEnvironment (env : Environment) (insecure : Bool) : Authentication :=
  let user := env.value? userName
  let password := env.value? passwordName
  match user.filter (!·.isEmpty), password with
  | some user, some password => .basic user password
  | _, _ =>
    if insecure then .basic (orInsecureDefault user) (orInsecureDefault password) else .anonymous

end Authentication
end Metastore
