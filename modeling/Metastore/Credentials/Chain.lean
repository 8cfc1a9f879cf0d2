import Metastore.Credentials.Source

/-!
# Credential chains

An ordered list of sources with a cache. Nothing is asked before the first use. A use takes the cached
credentials while they last at least fifteen minutes, and otherwise asks the sources; if that fails, cached
credentials that last at least ten minutes are still good. Credentials without an expiry are taken to last
an hour. Clients hold no credentials of their own: they are given references to a chain.
-/

namespace Metastore.Credentials

/-- How long credentials are taken to last that came without an expiry, in seconds. -/
def assumedLifetime : Int := 3600

/-- Cached credentials that last less than this are replaced if possible. -/
def renewBelow : Int := 900

/-- Cached credentials that last less than this have to be replaced. -/
def replaceBelow : Int := 600

/-- Credentials in the cache, with the time when they were loaded. -/
structure Cached where
  grant : Grant
  loadedAt : Int
deriving DecidableEq, Repr

namespace Cached

/-- When the credentials expire. -/
def expiresAt (cached : Cached) : Int := cached.grant.expiry.getD (cached.loadedAt + assumedLifetime)

/-- How long the credentials last. -/
def remaining (cached : Cached) (now : Int) : Int := cached.expiresAt - now

end Cached

/-- A list of sources, in the order in which they are asked, with the credentials they last granted. -/
structure Chain where
  sources : List Source
  cached : Option Cached := none

namespace Chain

/-- The name of the way in which a chain finds credentials. -/
def method : String := "remeta-chain"

/-- The names of the ways in which the sources find credentials. -/
def methods (chain : Chain) : List String := chain.sources.map (·.method)

/-- How often each source has been asked. -/
def loads (chain : Chain) : List Nat := chain.sources.map (·.loads)

/-- Changes a source, but not how often it has been asked. -/
def updateSource (chain : Chain) (index : Nat) (change : Source → Source) : Chain :=
  { chain with sources := chain.sources.modify index fun s => { change s with loads := s.loads } }

/-- Asks the sources. It is a problem if none of them grants credentials. -/
def fetch (chain : Chain) (now : Int) : Except Problem Cached × List Source :=
  let (result, sources) := Source.ask chain.sources
  match result with
  | .ok (some grant) => (.ok ⟨grant, now⟩, sources)
  | .ok none => (.error (.auth (.noSource chain.methods)), sources)
  | .error problem => (.error problem, sources)

/-- Takes what was fetched into the cache. Credentials that are expired when they arrive are of no use. -/
def refresh (chain : Chain) (now : Int) : Except Problem Credentials × Chain :=
  match chain.fetch now with
  | (.ok fresh, sources) =>
    let chain : Chain := ⟨sources, some fresh⟩
    if fresh.remaining now < 0 then (.error .runtime, chain) else (.ok fresh.grant.credentials, chain)
  | (.error problem, sources) =>
    let chain := { chain with sources }
    match chain.cached with
    | some old =>
      if old.remaining now < replaceBelow then (.error problem, chain) else (.ok old.grant.credentials, chain)
    | none => (.error problem, chain)

/-- Uses the credentials. -/
def use (chain : Chain) (now : Int) : Except Problem Credentials × Chain :=
  match chain.cached with
  | some cached =>
    if cached.remaining now < renewBelow then chain.refresh now else (.ok cached.grant.credentials, chain)
  | none => chain.refresh now

end Chain

/-! ### References -/

/-- A chain that was made, by its position among all that were made. -/
structure ChainRef where
  position : Nat
deriving DecidableEq, Repr

/-- The credentials of a chain. They are looked up when they are needed, in the cache that the chain has
then, by whoever was given them. -/
structure Deferred where
  chain : ChainRef
deriving DecidableEq, Repr

/-- A chain as a provider, from which a session of another library draws its credentials. -/
structure Provider where
  chain : ChainRef
deriving DecidableEq, Repr

namespace ChainRef

/-- The credentials of a chain. -/
def credentials (chain : ChainRef) : Deferred := ⟨chain⟩

/-- The provider for a chain. -/
def provider (chain : ChainRef) : Provider := ⟨chain⟩

end ChainRef

namespace Provider

/-- The name of the way in which a provider finds credentials: that of its chain. -/
def method : String := Chain.method

/-- The name of a provider among others. -/
def canonicalName : String := "RemetaChain"

end Provider
end Metastore.Credentials
