import Metastore.Failure
import Metastore.Value

/-!
# Services

What the stores behind a client have in common: a service has contents, keeps a record of the calls it
received, and may have replies prepared for it, which it gives instead of what it would answer by itself.
-/

namespace Metastore

/-- Who signed a request, and for what. -/
structure Signature where
  accessKey : String
  token : Option String
  region : Value
  serviceName : Value
deriving DecidableEq, Repr

/-- A request as it was received. A request that is not signed, or could not be, has no signature. -/
structure Call (Request : Type) where
  request : Request
  signature : Option Signature
deriving DecidableEq, Repr

/-- A prepared reply. -/
inductive Reply where
  | answer (value : Value)
  | failure (failure : Failure)
deriving DecidableEq, Repr

/-- What a reply amounts to. -/
def Reply.result : Reply → Except Failure Value
  | answer value => .ok value
  | failure f => .error f

/-- A kind of requests: each has a method, by which replies are prepared, and an answer. -/
class Requests (Request : Type) (Contents : outParam Type) where
  /-- The name of the method of a request. -/
  method : Request → String
  /-- What a service answers by itself, and its contents afterwards. -/
  respond : Request → Contents → Value × Contents

/-- A service. -/
structure Service (Request Contents : Type) where
  contents : Contents
  calls : List (Call Request) := []
  /-- Replies that are prepared for the next calls of a method. -/
  prepared : List (String × Reply) := []

namespace Service

variable {Request Contents : Type}

/-- Prepares a reply for a method, to be given after those prepared earlier. -/
def prepare (service : Service Request Contents) (method : String) (reply : Reply) :
    Service Request Contents :=
  { service with prepared := service.prepared ++ [(method, reply)] }

/-- Adds a call to the record. -/
def record (service : Service Request Contents) (request : Request) (signature : Option Signature) :
    Service Request Contents :=
  { service with calls := service.calls ++ [⟨request, signature⟩] }

/-- How many calls of a method the service received. -/
def countCalls [Requests Request Contents] (service : Service Request Contents) (method : String) : Nat :=
  service.calls.countP fun call => Requests.method call.request == method

/-- Takes the first reply that is prepared for a method. -/
def takePrepared (method : String) : List (String × Reply) → Option (Reply × List (String × Reply))
  | [] => none
  | (name, reply) :: rest =>
    if name = method then some (reply, rest)
    else (takePrepared method rest).map fun (found, rest) => (found, (name, reply) :: rest)

/-- Answers a request: by the reply prepared for its method, or else by itself. -/
def answer [Requests Request Contents] (service : Service Request Contents) (request : Request) :
    Except Failure Value × Service Request Contents :=
  match takePrepared (Requests.method request) service.prepared with
  | some (reply, prepared) => (reply.result, { service with prepared })
  | none =>
    let (value, contents) := Requests.respond request service.contents
    (.ok value, { service with contents })

end Service
end Metastore
