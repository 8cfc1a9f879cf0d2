/-!
# Problems

What can go wrong, as causes. The problems that this library reports itself carry a message, which
`Problem.message` words; the others come from the services, files and values it is given and are told apart
by their cause alone.
-/

namespace Metastore

/-- A setting that is missing or cannot be used. -/
inductive ConfigProblem where
  /-- The client needs an endpoint. -/
  | endpointRequired (client : String)
  /-- The client needs an endpoint and a region. -/
  | endpointAndRegionRequired (client : String)
  /-- The signing service is none that the client can sign for. -/
  | serviceUnsupported (client : String)
  /-- The endpoint's scheme is neither http nor https. -/
  | schemeUnsupported (scheme : String)
  /-- The endpoint names no host. -/
  | hostMissing (endpoint : String)
  /-- The endpoint's port is no port number. -/
  | portInvalid (endpoint : String)
  /-- A problem stated in words by a service. -/
  | stated (text : String)
deriving DecidableEq, Repr

/-- Credentials that could not be had. -/
inductive AuthProblem where
  /-- None of the sources, which are named by their methods, had credentials. -/
  | noSource (methods : List String)
  /-- A problem stated in words by a service. -/
  | stated (text : String)
deriving DecidableEq, Repr

/-- The cause of a failure. -/
inductive Problem where
  | config (problem : ConfigProblem)
  | auth (problem : AuthProblem)
  /-- Any other problem that the library words itself. -/
  | general (text : String)
  /-- A member of mappings was asked of a value that is none. -/
  | notAMapping
  /-- A value of a type that the operation cannot take. -/
  | wrongType
  /-- A value of the right type that the operation cannot take. -/
  | badValue
  /-- A key that the mapping does not have. -/
  | missingKey
  /-- A position outside a sequence. -/
  | missingPosition
  /-- A number too large for what it is used for. -/
  | outOfRange
  | missingFile
  | badCertificate
  | badEncoding
  | badJson
  | badYaml
  /-- A region that is no host label. -/
  | badRegion
  /-- No region where one is needed. -/
  | noRegion
  /-- An access key without its secret. -/
  | partialCredentials
  /-- A credential source that could not be asked. -/
  | sourceFailed
  /-- Something that failed while running, such as credentials that were expired when they arrived. -/
  | runtime
  | documentMissing
  | connectionFailed
  | connectionRefused
  | system
  /-- A request to stop, which is not an ordinary failure. -/
  | interrupted
deriving DecidableEq, Repr

/-- The names of the services that requests can be signed for: the search service and its serverless form. -/
def signingServices : List String := ["es", "aoss"]

/-- The words of a configuration problem. -/
def ConfigProblem.message : ConfigProblem → String
  | endpointRequired client => client ++ " client requires a metadata endpoint."
  | endpointAndRegionRequired client => client ++ " client requires a metadata endpoint and region."
  | serviceUnsupported client =>
    client ++ " client only supports service names ["
      ++ ", ".intercalate (signingServices.map fun s => "'" ++ s ++ "'") ++ "]"
  | schemeUnsupported scheme => "unsupported endpoint scheme: " ++ scheme
  | hostMissing endpoint => "endpoint has no host: " ++ endpoint
  | portInvalid endpoint => "invalid endpoint port: " ++ endpoint
  | stated text => text

/-- The words of a credential problem. -/
def AuthProblem.message : AuthProblem → String
  | noSource methods =>
    "unable to resolve credentials from any source (" ++ ", ".intercalate methods ++ ")"
  | stated text => text

namespace Problem

/-- The words of a problem, if the library has words for it. -/
def message? : Problem → Option String
  | config p => some p.message
  | auth p => some p.message
  | general text => some text
  | _ => none

/-- Whether the problem is about credentials. -/
def isAuth : Problem → Bool
  | auth _ => true
  | _ => false

/-- Whether the library reports the problem itself. -/
def isOwn (p : Problem) : Bool := p.message?.isSome

/-- Whether the problem is an ordinary failure, which callers may recover from. -/
def isOrdinary : Problem → Bool
  | interrupted => false
  | _ => true

end Problem
end Metastore
