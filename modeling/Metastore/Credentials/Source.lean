import Metastore.Environment
import Metastore.Problem

/-!
# Credential sources

Credentials, and the sources that may grant them: the environment, the container, the instance. A source
that is asked grants credentials, has none, or fails; it counts how often it was asked.
-/

namespace Metastore

/-- What requests are signed with. -/
structure Credentials where
  accessKey : String
  secretKey : String
  token : Option String := none
deriving DecidableEq, Repr

/-- Credentials as a source grants them. The expiry, if there is one, is in seconds. -/
structure Grant where
  credentials : Credentials
  expiry : Option Int := none
deriving DecidableEq, Repr

/-- A source of credentials. -/
structure Source where
  /-- The name of the way in which the source finds credentials. -/
  method : String
  accessKey : Option String := none
  secretKey : String := "secret"
  token : Option String := none
  expiry : Option Int := none
  /-- Why the source cannot be asked, if it cannot. -/
  refusal : Option Problem := none
  /-- How often the source has been asked. -/
  loads : Nat := 0
deriving DecidableEq, Repr

namespace Source

/-- What the source answers: it fails if it cannot be asked, and has nothing without an access key. -/
def answer (source : Source) : Except Problem (Option Grant) :=
  match source.refusal, source.accessKey with
  | some problem, _ => .error problem
  | none, none => .ok none
  | none, some accessKey =>
    .ok (some ⟨⟨accessKey, source.secretKey, source.token⟩, source.expiry⟩)

/-- The source after it has been asked once more. -/
def loaded (source : Source) : Source := { source with loads := source.loads + 1 }

/-- Asks sources in order, up to and including the first that grants credentials or fails. -/
def ask : List Source → Except Problem (Option Grant) × List Source
  | [] => (.ok none, [])
  | source :: rest =>
    match source.answer with
    | .ok none =>
      let (result, rest) := ask rest
      (result, source.loaded :: rest)
    | result => (result, source.loaded :: rest)

@[simp] theorem length_ask (sources : List Source) : (ask sources).2.length = sources.length := by
  induction sources with
  | nil => rfl
  | cons source rest ih =>
    simp only [ask]
    split <;> simp [ih]

/-! ### The usual sources -/

/-- The value of the first of some variables that is set and not empty. -/
def firstSet (env : Environment) (names : List String) : Option String :=
  names.findSome? fun name => (env.value? name).filter (!·.isEmpty)

/-- The environment as a source: an access key needs its secret, and may have a token. -/
def environment (env : Environment) : Source :=
  let accessKey := firstSet env ["AWS_ACCESS_KEY_ID"]
  let secretKey := firstSet env ["AWS_SECRET_ACCESS_KEY"]
  { method := "env", accessKey, secretKey := secretKey.getD ""
    token := firstSet env ["AWS_SESSION_TOKEN", "AWS_SECURITY_TOKEN"]
    refusal := if accessKey.isSome && secretKey.isNone then some .partialCredentials else none }

/-- The sources that are asked where none are given: the environment, then the container, then the
instance. Outside a container or an instance the last two have nothing. -/
def usual (env : Environment) : List Source :=
  [environment env, { method := "container-role" }, { method := "iam-role" }]

end Source
end Metastore
