import Metastore.Problem
import Metastore.Url
import Metastore.Text.Blank

/-!
# Endpoints

Where a cluster is: scheme, host and port. `Endpoint.parse` reads the endpoint of a self-managed cluster,
which is plain http unless it says otherwise; `Endpoint.parseSigning` reads the host and port of a cluster
that is reached over https with signed requests.
-/

namespace Metastore

/-- The schemes of endpoints. -/
inductive Scheme where
  | http
  | https
deriving DecidableEq, Repr

/-- The port of a scheme. -/
def Scheme.defaultPort : Scheme → Nat
  | http => 80
  | https => 443

/-- The name of a scheme. -/
def Scheme.name : Scheme → String
  | http => "http"
  | https => "https"

/-- The scheme of a name. -/
def Scheme.ofName? (name : List Char) : Option Scheme :=
  if name = "http".toList then some .http
  else if name = "https".toList then some .https
  else none

/-- A scheme, a host and a port. -/
structure Endpoint where
  scheme : Scheme
  host : String
  port : Nat
deriving DecidableEq, Repr

namespace Endpoint

/-- What separates a scheme from the rest. -/
def schemeMark : List Char := "://".toList

/-- A text with a scheme in front of it unless it has a scheme mark somewhere. -/
def withScheme (scheme : Scheme) (cs : List Char) : List Char :=
  if Text.hasInfix schemeMark cs then cs else scheme.name.toList ++ schemeMark ++ cs

/-- The number of a written port, with a default where there is none or it is zero. -/
def portOr (default : Nat) (shown : String) : PortText → Except Problem Nat
  | .absent => .ok default
  | .number n => .ok (if n = 0 then default else n)
  | .invalid => .error (.config (.portInvalid shown))

/-- Splits a text into scheme, host and port. -/
def ofUrl (shown : String) (url : Url) : Except Problem Endpoint :=
  match Scheme.ofName? url.scheme with
  | none => .error (.config (.schemeUnsupported (String.ofList url.scheme)))
  | some scheme =>
    if url.host.isEmpty then .error (.config (.hostMissing shown))
    else do
      let port ← portOr scheme.defaultPort shown url.port
      return ⟨scheme, String.ofList url.host, port⟩

/-- The endpoint that a text denotes: `scheme://host[:port]`, or `host[:port]` for http. White space around
it, user information, and a path, query or fragment are passed over. -/
def parse (shown : String) : Except Problem Endpoint :=
  match Url.split? (withScheme .http (Text.trimBy Text.isBlank shown.toList)) with
  | none => .error .badValue
  | some url => ofUrl shown url

/-- The host and port that a text denotes where requests are signed: any scheme is taken for https. -/
def parseSigning (shown : String) : Except Problem (String × Nat) :=
  match Url.split? (withScheme .https shown.toList) with
  | none => .error .badValue
  | some url =>
    if url.host.isEmpty then .error (.config (.hostMissing shown))
    else do
      let port ← portOr Scheme.https.defaultPort shown url.port
      return (String.ofList url.host, port)

end Endpoint
end Metastore
