import Metastore.Client.Creation
import Metastore.Proofs.Credentials.Freshness

/-!
# First hits

A chain is made without asking any of its sources. A use that has to renew the credentials asks them
in order, each once, up to and including the first that grants credentials or fails
(`Source.FirstHit`); `Chain.Resolved` says what it does with the cache then. Over every run, a source
has been asked as often as a use of the run came to it (`resolved_by_first_hit`).
-/

namespace Metastore

namespace Source

/-- The ways in which asking sources can end, with the sources afterwards: those up to and including
the first that grants credentials or fails have been asked once more. -/
inductive FirstHit (sources : List Source) :
    Except Problem (Option Grant) → List Source → Prop where
  | hit (before : List Source) (first : Source) (after : List Source)
      {result : Except Problem (Option Grant)} (hsources : sources = before ++ first :: after)
      (hbefore : ∀ source ∈ before, source.answer = .ok none) (hfirst : first.answer = result)
      (hresult : result ≠ .ok none) :
      FirstHit sources result (before.map loaded ++ first.loaded :: after)
  | miss (hsources : ∀ source ∈ sources, source.answer = .ok none) :
      FirstHit sources (.ok none) (sources.map loaded)

lemma firstHit_ask (sources : List Source) : FirstHit sources (ask sources).1 (ask sources).2 := by
  induction sources with
  | nil => exact .miss (by simp)
  | cons source rest ih =>
    cases hanswer : source.answer with
    | error problem =>
      simp only [ask, hanswer]
      exact .hit [] source rest rfl (by simp) hanswer (by simp)
    | ok granted =>
      cases granted with
      | some grant =>
        simp only [ask, hanswer]
        exact .hit [] source rest rfl (by simp) hanswer (by simp)
      | none =>
        simp only [ask, hanswer]
        generalize (ask rest).1 = result, (ask rest).2 = asked at ih ⊢
        cases ih with
        | hit before first after hsources hbefore hfirst hresult =>
          refine .hit (source :: before) first after (by simp [hsources]) ?_ hfirst hresult
          simpa using ⟨hanswer, hbefore⟩
        | miss hrest => exact .miss (by simpa using ⟨hanswer, hrest⟩)

/-- Whether a source neither grants credentials nor fails. -/
def isSilent (source : Source) : Bool :=
  match source.answer with
  | .ok none => true
  | _ => false

/-- Asking comes to a source exactly if all sources before it are silent. -/
lemma loads_ask (sources : List Source) (position : Nat) :
    ((ask sources).2.map (·.loads))[position]? = sources[position]?.map fun source =>
      source.loads + if (sources.take position).all isSilent then 1 else 0 := by
  induction sources generalizing position with
  | nil => simp [ask]
  | cons source rest ih =>
    cases hanswer : source.answer with
    | error problem => cases position <;> simp [ask, hanswer, loaded, isSilent]
    | ok granted =>
      cases granted with
      | some grant => cases position <;> simp [ask, hanswer, loaded, isSilent]
      | none =>
        cases position with
        | zero => simp [ask, hanswer, loaded]
        | succ position => simpa [ask, hanswer, isSilent] using ih position

end Source

namespace Credentials

/-! ### One use -/

namespace Chain

variable {chain : Chain} {now : Int}

/-- What is left where others could not be had: the cached credentials, if they last ten minutes. -/
def fallBack (chain : Chain) (now : Int) (problem : Problem) : Except Problem Credentials :=
  match chain.cached with
  | some old =>
    if expiryOf old.grant old.loadedAt < now + 600 then .error problem
    else .ok old.grant.credentials
  | none => .error problem

/-- The ways in which a use of a chain can end, by what is cached and by the first hit among the
sources. -/
inductive Resolved (chain : Chain) (now : Int) : Except Problem Credentials → Chain → Prop where
  | spared (old : Cached) (hcached : chain.cached = some old)
      (hlast : now + 900 ≤ expiryOf old.grant old.loadedAt) :
      Resolved chain now (.ok old.grant.credentials) chain
  | granted (grant : Grant) (asked : List Source)
      (hrenew : ∀ old, chain.cached = some old → expiryOf old.grant old.loadedAt < now + 900)
      (hhit : Source.FirstHit chain.sources (.ok (some grant)) asked) :
      Resolved chain now
        (if expiryOf grant now < now then .error .runtime else .ok grant.credentials)
        { sources := asked, cached := some ⟨grant, now⟩ }
  | refused (problem : Problem) (asked : List Source)
      (hrenew : ∀ old, chain.cached = some old → expiryOf old.grant old.loadedAt < now + 900)
      (hhit : Source.FirstHit chain.sources (.error problem) asked) :
      Resolved chain now (chain.fallBack now problem) { chain with sources := asked }
  | silent (asked : List Source)
      (hrenew : ∀ old, chain.cached = some old → expiryOf old.grant old.loadedAt < now + 900)
      (hhit : Source.FirstHit chain.sources (.ok none) asked) :
      Resolved chain now
        (chain.fallBack now (.auth (.noSource (chain.sources.map (·.method)))))
        { chain with sources := asked }

/-- A fetch fails because a source does, or because no source has credentials. -/
lemma ask_of_fetch_error {problem : Problem} (h : (chain.fetch now).1 = .error problem) :
    (Source.ask chain.sources).1 = .error problem ∨
      (Source.ask chain.sources).1 = .ok none ∧ problem = .auth (.noSource chain.methods) := by
  simp only [fetch] at h
  split at h
  · cases h
  · next hask => exact .inr ⟨hask, (Except.error.inj h).symm⟩
  · next refusal hask =>
    obtain rfl : refusal = problem := Except.error.inj h
    exact .inl hask

lemma Renews.expiry_lt (h : chain.Renews now) (old : Cached) (hold : chain.cached = some old) :
    expiryOf old.grant old.loadedAt < now + 900 := by
  have hexpiry := add_remaining old now
  have hlast : old.remaining now < 900 := h old hold
  omega

/-- Where others could not be had, the use ends with what is left. -/
lemma resolved_of_fetch_error {problem : Problem} (hrenew : chain.Renews now)
    (h : (chain.fetch now).1 = .error problem) :
    chain.Resolved now (chain.fallBack now problem) chain.asked := by
  have hhit := Source.firstHit_ask chain.sources
  rcases ask_of_fetch_error h with hask | ⟨hask, rfl⟩
  · rw [hask] at hhit
    exact .refused problem _ hrenew.expiry_lt hhit
  · rw [hask] at hhit
    exact .silent _ hrenew.expiry_lt hhit

/-- Every use ends in one of the ways. -/
lemma use_resolved (chain : Chain) (now : Int) :
    chain.Resolved now (chain.use now).1 (chain.use now).2 := by
  have hused := chain.used now
  generalize (chain.use now).1 = result, (chain.use now).2 = after at hused ⊢
  have hhit := Source.firstHit_ask chain.sources
  cases hused with
  | cached old hcached hlast =>
    apply Resolved.spared old hcached
    have hexpiry := add_remaining old now
    have hlast : 900 ≤ old.remaining now := hlast
    omega
  | loaded grant hrenew hask hlast =>
    have hexpiry := add_remaining ⟨grant, now⟩ now
    have hresolved := Resolved.granted grant _ hrenew.expiry_lt (hask ▸ hhit)
    rwa [if_neg (by dsimp only at hexpiry; omega)] at hresolved
  | expired grant hrenew hask hlast =>
    have hexpiry := add_remaining ⟨grant, now⟩ now
    have hresolved := Resolved.granted grant _ hrenew.expiry_lt (hask ▸ hhit)
    rwa [if_pos (by dsimp only at hexpiry; omega)] at hresolved
  | kept old problem hcached hrenew hfetch hlast =>
    have hexpiry := add_remaining old now
    have hlast : 600 ≤ old.remaining now := hlast
    have hresolved := resolved_of_fetch_error hrenew hfetch
    rw [fallBack, hcached] at hresolved
    dsimp only at hresolved
    rwa [if_neg (by omega)] at hresolved
  | failed problem hrenew hfetch hlast =>
    have hresolved := resolved_of_fetch_error hrenew hfetch
    rw [fallBack] at hresolved
    split at hresolved
    · next old hcached =>
      have hexpiry := add_remaining old now
      have hlast : old.remaining now < 600 := hlast old hcached
      rwa [if_pos (by omega)] at hresolved
    · exact hresolved

end Chain

/-! ### Runs -/

variable {credentials : Deferred} {s : Services} {chain : Chain}

/-- Whether nothing is cached that lasts fifteen minutes. -/
def mustRenew (chain : Chain) (now : Int) : Bool :=
  chain.cached.all fun old => expiryOf old.grant old.loadedAt < now + 900

/-- Whether a use comes to the source at a position: the credentials have to be renewed, and all
sources before it are silent. -/
def comesTo (credentials : Deferred) (position : Nat) (s : Services) : Bool :=
  (s.chainOf? credentials).any fun chain =>
    mustRenew chain s.now && (chain.sources.take position).all Source.isSilent

/-- How many uses of a run come to the source at a position. -/
def timesAsked (credentials : Deferred) (position : Nat) (s : Services) : List (Event Use) → Nat
  | [] => 0
  | .perform use :: rest =>
    (if comesTo credentials position s then 1 else 0) +
      timesAsked credentials position (use.perform credentials s) rest
  | event :: rest =>
    timesAsked credentials position (s.step (Use.perform credentials) event) rest

lemma mustRenew_iff (chain : Chain) (now : Int) : mustRenew chain now = true ↔ chain.Renews now := by
  rw [mustRenew]
  cases hcached : chain.cached with
  | none => simp [Chain.Renews, hcached]
  | some old =>
    have hexpiry := add_remaining old now
    simp only [Chain.Renews, hcached, Option.some.injEq, forall_eq', Option.all_some,
      decide_eq_true_eq, renewBelow]
    omega

lemma sources_use (chain : Chain) (now : Int) :
    (chain.use now).2.sources =
      if mustRenew chain now then (Source.ask chain.sources).2 else chain.sources := by
  have hused := chain.used now
  generalize (chain.use now).1 = result, (chain.use now).2 = after at hused ⊢
  have hrenews := mustRenew_iff chain now
  cases hused with
  | cached old hcached hlast =>
    have hnot : ¬ chain.Renews now := fun hrenew => Int.not_lt.mpr hlast (hrenew old hcached)
    rw [if_neg (mt hrenews.mp hnot)]
  | loaded grant hrenew hask hlast => rw [if_pos (hrenews.mpr hrenew)]; rfl
  | expired grant hrenew hask hlast => rw [if_pos (hrenews.mpr hrenew)]; rfl
  | kept old problem hcached hrenew hfetch hlast => rw [if_pos (hrenews.mpr hrenew)]; rfl
  | failed problem hrenew hfetch hlast => rw [if_pos (hrenews.mpr hrenew)]; rfl

/-- A use asks each source that it comes to once, and no other. -/
lemma loadsOf_perform (h : s.chainOf? credentials = some chain) (use : Use) (position : Nat) :
    (loadsOf credentials (use.perform credentials s))[position]? =
      (loadsOf credentials s)[position]?.map
        (· + if comesTo credentials position s then 1 else 0) := by
  rw [loadsOf_of_chain (Use.chainOf?_perform h use), loadsOf_of_chain h, Chain.loads, Chain.loads,
    sources_use]
  cases hrenew : mustRenew chain s.now with
  | true =>
    rw [if_pos rfl, Source.loads_ask]
    simp [comesTo, h, hrenew, Function.comp_def]
  | false => simp [comesTo, h, hrenew, Function.comp_def]

/-- Over a run, every source is asked as often as a use of the run comes to it. -/
lemma loadsOf_run (h : s.chainOf? credentials = some chain) (events : List (Event Use))
    (position : Nat) :
    (loadsOf credentials (s.run (Use.perform credentials) events))[position]? =
      (loadsOf credentials s)[position]?.map (· + timesAsked credentials position s events) := by
  induction events generalizing s chain with
  | nil => simp [timesAsked]
  | cons event rest ih =>
    rw [Services.run_cons]
    cases event with
    | perform use =>
      rw [Services.step, ih (Use.chainOf?_perform h use), loadsOf_perform h, Option.map_map]
      simp only [timesAsked, Function.comp_def, Nat.add_assoc]
    | advance seconds => exact ih (s := { s with now := s.now + seconds }) h
    | updateSource index change =>
      have hchain : (s.step (Use.perform credentials) (.updateSource index change)).chainOf?
          credentials = some (chain.updateSource index change) := by
        rw [Services.step, Services.chainOf?_map, h, Option.map_some]
      rw [ih hchain, loadsOf_of_chain hchain, Chain.loads_updateSource, loadsOf_of_chain h]
      rfl

/-- A chain that was just made stands behind all others, has asked none of its sources and has nothing
cached. Over every run from there, a source has been asked as often as a use came to it; and whatever
happened before, a use takes what is cached and lasts fifteen minutes, or goes by the first hit among
the sources, and changes no other chain. -/
theorem resolved_by_first_hit (around : Surroundings) (begin : Privileged Services)
    (events : List (Event Use)) (use : Use) :
    let made : ChainRef := ⟨begin.state.chains.length⟩
    let start := (Client.openChain around begin).2.state
    let s := start.run (Use.perform made.credentials) events
    (Client.openChain around begin).1 = .ok made ∧
      start.chains = begin.state.chains ++ [{ sources := around.sources }] ∧
      (∀ position, (loadsOf made.credentials s)[position]? =
        around.sources[position]?.map fun source =>
          source.loads + timesAsked made.credentials position start events) ∧
      ∃ chain result after, s.chainOf? made.credentials = some chain ∧
        chain.Resolved s.now result after ∧
        use.run made.credentials s = (result.map use.hand, s.setChain made.credentials after) := by
  intro made start s
  have hstart : start.chainOf? made.credentials = some { sources := around.sources } :=
    List.getElem?_concat_length
  refine ⟨rfl, rfl, fun position => ?_, ?_⟩
  · rw [loadsOf_run hstart, loadsOf_of_chain hstart, Chain.loads, List.getElem?_map,
      Option.map_map]
    rfl
  · obtain ⟨chain, hchain, -⟩ := cacheLoaded_run hstart events
    exact ⟨chain, _, _, hchain, chain.use_resolved s.now, Use.run_of_chain hchain use⟩

end Credentials
end Metastore
