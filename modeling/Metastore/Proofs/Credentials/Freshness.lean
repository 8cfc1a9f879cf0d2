import Metastore.Proofs.Credentials.Use
import Metastore.Proofs.Run
import Metastore.Proofs.Services.Chains

/-!
# Fresh credentials

A chain is used when its credentials are asked for and when a request is signed. Over every run,
what a use gives has not expired, and is neither close to its end nor old: `handed_fresh` bounds
both, by what the use itself did.
-/

namespace Metastore.Credentials

/-- The ways in which a chain is used. -/
inductive Use where
  /-- The credentials themselves are asked for. -/
  | frozen
  /-- A request is signed. -/
  | signed (region serviceName : Value)

/-- What a use gives. -/
inductive Handed where
  | credentials (credentials : Credentials)
  | signature (signature : Signature)
deriving DecidableEq

namespace Use

/-- What a use makes of credentials. -/
def hand : Use → Credentials → Handed
  | frozen, c => .credentials c
  | signed region serviceName, c => .signature ⟨c.accessKey, c.token, region, serviceName⟩

/-- Uses the chain of some credentials. -/
def run (credentials : Deferred) : Use → Action Services Problem Handed
  | frozen => .credentials <$> Services.lookUp credentials
  | signed region serviceName => .signature <$> Services.sign credentials region serviceName

/-- The services after a use. -/
def perform (credentials : Deferred) (use : Use) (s : Services) : Services :=
  (use.run credentials s).2

end Use

/-- How often each source of the chain of some credentials has been asked. -/
def loadsOf (credentials : Deferred) (s : Services) : List Nat :=
  ((s.chainOf? credentials).map (·.loads)).getD []

/-- What the sources of the chain of some credentials answer if they are asked. -/
def answerOf (credentials : Deferred) (s : Services) : Except Problem (Option Grant) :=
  match s.chainOf? credentials with
  | none => .ok none
  | some chain => (Source.ask chain.sources).1

namespace Use

/-- Whether a use asks the sources. -/
def Asks (credentials : Deferred) (use : Use) (s : Services) : Prop :=
  loadsOf credentials (use.perform credentials s) ≠ loadsOf credentials s

/-- Whether a use is granted credentials by the sources. -/
def Loads (credentials : Deferred) (use : Use) (s : Services) (grant : Grant) : Prop :=
  use.Asks credentials s ∧ answerOf credentials s = .ok (some grant)

/-- Whether a use asks the sources in vain. -/
def AsksInVain (credentials : Deferred) (use : Use) (s : Services) : Prop :=
  use.Asks credentials s ∧ ∀ grant, answerOf credentials s ≠ .ok (some grant)

end Use

/-- Whether a use in a run was granted credentials at a time. -/
def LoadedDuring (credentials : Deferred) (start : Services) (events : List (Event Use))
    (grant : Grant) (time : Int) : Prop :=
  ∃ before use after, events = before ++ .perform use :: after ∧
    (start.run (Use.perform credentials) before).now = time ∧
    use.Loads credentials (start.run (Use.perform credentials) before) grant

/-- When granted credentials expire. -/
def expiryOf (grant : Grant) (loadedAt : Int) : Int := grant.expiry.getD (loadedAt + 3600)

/-- What can be relied on where a use gives credentials that were loaded at a time. -/
structure Fresh (credentials : Deferred) (use : Use) (s : Services) (grant : Grant)
    (loadedAt : Int) : Prop where
  unexpired : s.now ≤ expiryOf grant loadedAt
  unless_loaded : ¬ use.Loads credentials s grant → s.now + 600 ≤ expiryOf grant loadedAt
  unless_asked : ¬ use.Asks credentials s → s.now + 900 ≤ expiryOf grant loadedAt
  age : grant.expiry = none → s.now ≤ loadedAt + 3000
  age_unless_vain : grant.expiry = none → ¬ use.AsksInVain credentials s → s.now ≤ loadedAt + 2700

/-! ### One use -/

variable {credentials : Deferred} {s : Services} {chain : Chain} {use : Use}

lemma Use.run_of_chain (h : s.chainOf? credentials = some chain) (use : Use) :
    use.run credentials s = ((chain.use s.now).1.map use.hand,
      s.setChain credentials (chain.use s.now).2) := by
  cases use with
  | frozen =>
    rw [run, Action.map_apply, Services.lookUp_of_chain h]
    rfl
  | signed region serviceName =>
    rw [run, Action.map_apply, Services.sign_apply, Services.lookUp_of_chain h]
    cases (chain.use s.now).1 <;> rfl

/-- A use changes nothing but the chain. -/
lemma Use.perform_of_chain (h : s.chainOf? credentials = some chain) (use : Use) :
    use.perform credentials s = s.setChain credentials (chain.use s.now).2 := by
  rw [Use.perform, Use.run_of_chain h]

lemma Use.chainOf?_perform (h : s.chainOf? credentials = some chain) (use : Use) :
    (use.perform credentials s).chainOf? credentials = some (chain.use s.now).2 := by
  rw [Use.perform_of_chain h, Services.chainOf?_setChain h]

lemma loadsOf_of_chain (h : s.chainOf? credentials = some chain) :
    loadsOf credentials s = chain.loads := by
  rw [loadsOf, h, Option.map_some, Option.getD_some]

/-- A use asks the sources unless the cached credentials last at least fifteen minutes. -/
lemma Use.asks_iff (h : s.chainOf? credentials = some chain) (hne : chain.sources ≠ []) :
    use.Asks credentials s ↔ chain.Renews s.now := by
  have hloads : loadsOf credentials (use.perform credentials s) = (chain.use s.now).2.loads :=
    loadsOf_of_chain (Use.chainOf?_perform h use)
  have hasked : chain.asked.loads ≠ chain.loads := Source.map_loads_ask_ne hne
  rw [Use.Asks, hloads, loadsOf_of_chain h]
  have hused := chain.used s.now
  generalize (chain.use s.now).1 = result, (chain.use s.now).2 = after at hused ⊢
  cases hused with
  | cached old hcached hlast =>
    refine iff_of_false (fun hne => hne rfl) fun hrenew => ?_
    exact absurd (hrenew old hcached) (Int.not_lt.mpr hlast)
  | loaded grant hrenew hask hlast => exact iff_of_true hasked hrenew
  | expired grant hrenew hask hlast => exact iff_of_true hasked hrenew
  | kept old problem hcached hrenew hfetch hlast => exact iff_of_true hasked hrenew
  | failed problem hrenew hfetch hlast => exact iff_of_true hasked hrenew

/-- Sources that grant something are sources. -/
lemma sources_ne_of_granted {grant : Grant} (h : (Source.ask chain.sources).1 = .ok (some grant)) :
    chain.sources ≠ [] := by
  intro hnil
  rw [hnil] at h
  cases h

lemma Use.loads_of_granted {grant : Grant} (h : s.chainOf? credentials = some chain)
    (hrenew : chain.Renews s.now) (hask : (Source.ask chain.sources).1 = .ok (some grant)) :
    use.Loads credentials s grant := by
  refine ⟨(Use.asks_iff h (sources_ne_of_granted hask)).mpr hrenew, ?_⟩
  rw [answerOf, h]
  exact hask

/-! ### Freshness of one use -/

lemma expiryOf_of_none {grant : Grant} (h : grant.expiry = none) (loadedAt : Int) :
    expiryOf grant loadedAt = loadedAt + 3600 := by
  rw [expiryOf, h, Option.getD_none]

/-- Cached credentials expire when what was loaded does. -/
lemma add_remaining (old : Cached) (now : Int) :
    now + old.remaining now = expiryOf old.grant old.loadedAt := by
  show now + (old.expiresAt - now) = old.expiresAt
  omega

/-- Credentials that last fifteen minutes are fresh, whatever the use did. -/
lemma fresh_of_lasting {old : Cached} (hlast : renewBelow ≤ old.remaining s.now) :
    Fresh credentials use s old.grant old.loadedAt := by
  have hexpiry := add_remaining old s.now
  have hlast : 900 ≤ old.remaining s.now := hlast
  refine ⟨by omega, fun _ => by omega, fun _ => by omega, fun hnone => ?_, fun hnone _ => ?_⟩
  · rw [expiryOf_of_none hnone] at hexpiry
    omega
  · rw [expiryOf_of_none hnone] at hexpiry
    omega

/-- Credentials that are just loaded are fresh if they have not expired yet. -/
lemma fresh_of_loaded {grant : Grant} (hloads : use.Loads credentials s grant)
    (hlast : 0 ≤ (Cached.mk grant s.now).remaining s.now) : Fresh credentials use s grant s.now := by
  have hexpiry := add_remaining ⟨grant, s.now⟩ s.now
  refine ⟨by dsimp only at hexpiry; omega, fun hnot => absurd hloads hnot,
    fun hnot => absurd hloads.1 hnot, fun _ => by omega, fun _ _ => by omega⟩

/-- Credentials that are kept because others could not be had are fresh if they last ten minutes. -/
lemma fresh_of_kept {old : Cached} (hvain : use.AsksInVain credentials s)
    (hlast : replaceBelow ≤ old.remaining s.now) : Fresh credentials use s old.grant old.loadedAt := by
  have hexpiry := add_remaining old s.now
  have hlast : 600 ≤ old.remaining s.now := hlast
  refine ⟨by omega, fun _ => by omega, fun hnot => absurd hvain.1 hnot, fun hnone => ?_,
    fun _ hnot => absurd hvain hnot⟩
  rw [expiryOf_of_none hnone] at hexpiry
  omega

/-! ### Whole runs -/

lemma LoadedDuring.append {start : Services} {events : List (Event Use)} {grant : Grant}
    {time : Int} (h : LoadedDuring credentials start events grant time) (more : List (Event Use)) :
    LoadedDuring credentials start (events ++ more) grant time := by
  obtain ⟨before, use, after, rfl, htime, hload⟩ := h
  exact ⟨before, use, after ++ more, by simp, htime, hload⟩

/-- Whether everything in the cache of the services was loaded by a use of the run. -/
def CacheLoaded (credentials : Deferred) (start : Services) (events : List (Event Use))
    (s : Services) : Prop :=
  ∃ chain, s.chainOf? credentials = some chain ∧
    ∀ old, chain.cached = some old → chain.sources ≠ [] ∧
      LoadedDuring credentials start events old.grant old.loadedAt

lemma asked_sources_ne (h : chain.sources ≠ []) : chain.asked.sources ≠ [] := by
  intro hnil
  have hlength := Source.length_ask chain.sources
  rw [show (Source.ask chain.sources).2 = [] from hnil, List.length_nil] at hlength
  exact h (List.length_eq_zero_iff.mp hlength.symm)

lemma CacheLoaded.step {start : Services} {events : List (Event Use)} (event : Event Use)
    (h : CacheLoaded credentials start events (start.run (Use.perform credentials) events)) :
    CacheLoaded credentials start (events ++ [event])
      ((start.run (Use.perform credentials) events).step (Use.perform credentials) event) := by
  obtain ⟨chain, hchain, hcache⟩ := h
  generalize hs : start.run (Use.perform credentials) events = s at hchain ⊢
  cases event with
  | advance seconds =>
    refine ⟨chain, hchain, fun old hold => ?_⟩
    exact ⟨(hcache old hold).1, (hcache old hold).2.append _⟩
  | updateSource index change =>
    refine ⟨chain.updateSource index change, ?_, fun old hold => ?_⟩
    · rw [Services.step, Services.chainOf?_map, hchain, Option.map_some]
    · refine ⟨?_, (hcache old hold).2.append _⟩
      simpa [Chain.updateSource] using (hcache old hold).1
  | perform use =>
    have hloaded {grant : Grant} (hrenew : chain.Renews s.now)
        (hask : (Source.ask chain.sources).1 = .ok (some grant)) :
        LoadedDuring credentials start (events ++ [.perform use]) grant s.now := by
      refine ⟨events, use, [], rfl, by rw [hs], ?_⟩
      rw [hs]
      exact Use.loads_of_granted hchain hrenew hask
    refine ⟨(chain.use s.now).2, Use.chainOf?_perform hchain use, ?_⟩
    have hused := chain.used s.now
    generalize (chain.use s.now).1 = result, (chain.use s.now).2 = after at hused ⊢
    cases hused with
    | cached old hcached hlast =>
      exact fun old hold => ⟨(hcache old hold).1, (hcache old hold).2.append _⟩
    | loaded grant hrenew hask hlast =>
      rintro old ⟨⟩
      exact ⟨asked_sources_ne (sources_ne_of_granted hask), hloaded hrenew hask⟩
    | expired grant hrenew hask hlast =>
      rintro old ⟨⟩
      exact ⟨asked_sources_ne (sources_ne_of_granted hask), hloaded hrenew hask⟩
    | kept old problem hcached hrenew hfetch hlast =>
      exact fun old hold => ⟨asked_sources_ne (hcache old hold).1, (hcache old hold).2.append _⟩
    | failed problem hrenew hfetch hlast =>
      exact fun old hold => ⟨asked_sources_ne (hcache old hold).1, (hcache old hold).2.append _⟩

lemma cacheLoaded_run {start : Services} {sources : List Source}
    (hstart : start.chainOf? credentials = some { sources }) (events : List (Event Use)) :
    CacheLoaded credentials start events (start.run (Use.perform credentials) events) := by
  refine Services.run_invariant (Use.perform credentials) (CacheLoaded credentials start) ?_
    (fun events event h => h.step event) events
  refine ⟨{ sources }, hstart, ?_⟩
  rintro old ⟨⟩

/-- What a use gives is what some use loaded, this one or an earlier one of the run, and it is
fresh: the credentials have not expired; unless this use loaded them they last another ten minutes,
and fifteen if it asked no source; without an expiry of their own they are at most fifty minutes
old, and at most forty-five unless this use asked in vain for others. -/
theorem handed_fresh {start : Services} {sources : List Source}
    (hstart : start.chainOf? credentials = some { sources }) (events : List (Event Use)) (use : Use)
    {handed : Handed}
    (hhanded : (use.run credentials (start.run (Use.perform credentials) events)).1 = .ok handed) :
    ∃ grant loadedAt, handed = use.hand grant.credentials ∧
      (use.Loads credentials (start.run (Use.perform credentials) events) grant ∧
          loadedAt = (start.run (Use.perform credentials) events).now ∨
        LoadedDuring credentials start events grant loadedAt) ∧
      Fresh credentials use (start.run (Use.perform credentials) events) grant loadedAt := by
  obtain ⟨chain, hchain, hcache⟩ := cacheLoaded_run hstart events
  generalize start.run (Use.perform credentials) events = s at *
  rw [Use.run_of_chain hchain] at hhanded
  have hused := chain.used s.now
  generalize (chain.use s.now).1 = result, (chain.use s.now).2 = after at hused hhanded
  cases hused with
  | cached old hcached hlast =>
    obtain rfl : use.hand old.grant.credentials = handed := Except.ok.inj hhanded
    exact ⟨old.grant, old.loadedAt, rfl, .inr (hcache old hcached).2, fresh_of_lasting hlast⟩
  | loaded grant hrenew hask hlast =>
    obtain rfl : use.hand grant.credentials = handed := Except.ok.inj hhanded
    have hloads : use.Loads credentials s grant := Use.loads_of_granted hchain hrenew hask
    exact ⟨grant, s.now, rfl, .inl ⟨hloads, rfl⟩, fresh_of_loaded hloads hlast⟩
  | expired grant hrenew hask hlast => cases hhanded
  | kept old problem hcached hrenew hfetch hlast =>
    obtain rfl : use.hand old.grant.credentials = handed := Except.ok.inj hhanded
    have hvain : use.AsksInVain credentials s := by
      refine ⟨(Use.asks_iff hchain (hcache old hcached).1).mpr hrenew, fun grant => ?_⟩
      rw [answerOf, hchain]
      exact Chain.ask_ne_of_fetch_error hfetch grant
    exact ⟨old.grant, old.loadedAt, rfl, .inr (hcache old hcached).2, fresh_of_kept hvain hlast⟩
  | failed problem hrenew hfetch hlast => cases hhanded

/-- Forty-eight minutes after they were loaded, credentials are still given where the source
fails. -/
theorem handed_fresh_while_source_fails :
    let credentials : Deferred := ChainRef.credentials ⟨0⟩
    let start : Services :=
      { chains := [{ sources := [{ method := "env", accessKey := some "key" }] }] }
    let events : List (Event Use) :=
      [.perform .frozen, .advance 2900,
        .updateSource 0 fun source => { source with refusal := some .sourceFailed }]
    let s := start.run (Use.perform credentials) events
    ∃ grant loadedAt,
      Handed.credentials ⟨"key", "secret", none⟩ = Use.frozen.hand grant.credentials ∧
      (Use.frozen.Loads credentials s grant ∧ loadedAt = s.now ∨
        LoadedDuring credentials start events grant loadedAt) ∧
      Fresh credentials .frozen s grant loadedAt :=
  handed_fresh rfl _ .frozen rfl

end Metastore.Credentials
