import Mathlib
import Metastore.Credentials.Chain

/-!
# Using a chain of credentials

A use of a chain takes the cached credentials or asks the sources. `Chain.Used` has one constructor
for each way in which a use can end, with the conditions under which it ends so and the chain it
leaves. Facts about uses are proved by cases on it.
-/

namespace Metastore

namespace Source

@[simp] lemma answer_loaded (source : Source) : source.loaded.answer = source.answer := rfl

/-- How often a source was asked has no influence on what it answers. -/
lemma ask_ask (sources : List Source) : (ask (ask sources).2).1 = (ask sources).1 := by
  induction sources with
  | nil => rfl
  | cons source rest ih =>
    simp only [ask]
    cases h : source.answer with
    | error problem => simp [ask, h]
    | ok granted =>
      cases granted with
      | none => simp [ask, h, ih]
      | some grant => simp [ask, h]

/-- Asking leaves its trace: the first source has been asked once more. -/
lemma map_loads_ask_ne {sources : List Source} (h : sources ≠ []) :
    (ask sources).2.map (·.loads) ≠ sources.map (·.loads) := by
  cases sources with
  | nil => exact absurd rfl h
  | cons source rest =>
    simp only [ask]
    split <;> simp [loaded]

end Source

namespace Credentials

namespace Chain

variable {chain : Chain} {now : Int}

/-- A use asks the sources: nothing is cached, or what is cached lasts less than fifteen minutes. -/
def Renews (chain : Chain) (now : Int) : Prop :=
  ∀ cached, chain.cached = some cached → cached.remaining now < renewBelow

/-- The chain after its sources have been asked in vain. -/
def asked (chain : Chain) : Chain := { chain with sources := (Source.ask chain.sources).2 }

/-- The ways in which a use of a chain can end. -/
inductive Used (chain : Chain) (now : Int) : Except Problem Credentials → Chain → Prop where
  | cached (old : Cached) (hcached : chain.cached = some old)
      (hlast : renewBelow ≤ old.remaining now) :
      Used chain now (.ok old.grant.credentials) chain
  | loaded (grant : Grant) (hrenew : chain.Renews now)
      (hask : (Source.ask chain.sources).1 = .ok (some grant))
      (hlast : 0 ≤ (Cached.mk grant now).remaining now) :
      Used chain now (.ok grant.credentials) { chain.asked with cached := some ⟨grant, now⟩ }
  | expired (grant : Grant) (hrenew : chain.Renews now)
      (hask : (Source.ask chain.sources).1 = .ok (some grant))
      (hlast : (Cached.mk grant now).remaining now < 0) :
      Used chain now (.error .runtime) { chain.asked with cached := some ⟨grant, now⟩ }
  | kept (old : Cached) (problem : Problem) (hcached : chain.cached = some old)
      (hrenew : chain.Renews now) (hfetch : (chain.fetch now).1 = .error problem)
      (hlast : replaceBelow ≤ old.remaining now) :
      Used chain now (.ok old.grant.credentials) chain.asked
  | failed (problem : Problem) (hrenew : chain.Renews now)
      (hfetch : (chain.fetch now).1 = .error problem)
      (hlast : ∀ old, chain.cached = some old → old.remaining now < replaceBelow) :
      Used chain now (.error problem) chain.asked

@[simp] lemma fetch_snd (chain : Chain) (now : Int) :
    (chain.fetch now).2 = (Source.ask chain.sources).2 := by
  simp only [fetch]
  split <;> rfl

/-- Fetching gives exactly what the sources grant, as loaded now. -/
lemma fetch_fst_eq_ok {fresh : Cached} :
    (chain.fetch now).1 = .ok fresh ↔
      (Source.ask chain.sources).1 = .ok (some fresh.grant) ∧ fresh.loadedAt = now := by
  simp only [fetch]
  split
  · next grant h =>
    rw [h]
    constructor
    · rintro ⟨⟩
      exact ⟨rfl, rfl⟩
    · rintro ⟨hgrant, rfl⟩
      simp only [Except.ok.injEq, Option.some.injEq] at hgrant
      rw [hgrant]
  · next h => simp [h]
  · next problem h => simp [h]

/-- A fetch that fails was granted nothing. -/
lemma ask_ne_of_fetch_error {problem : Problem} (h : (chain.fetch now).1 = .error problem)
    (grant : Grant) : (Source.ask chain.sources).1 ≠ .ok (some grant) := by
  intro hask
  have hok : (chain.fetch now).1 = .ok ⟨grant, now⟩ := fetch_fst_eq_ok.mpr ⟨hask, rfl⟩
  rw [h] at hok
  cases hok

/-- Asking the sources for a chain that needs it ends in one of the ways of a use. -/
lemma used_refresh (hrenew : chain.Renews now) :
    chain.Used now (chain.refresh now).1 (chain.refresh now).2 := by
  simp only [refresh]
  split
  · next fresh sources h =>
    obtain ⟨hask, hat⟩ := fetch_fst_eq_ok.mp (congrArg Prod.fst h)
    obtain rfl : (Source.ask chain.sources).2 = sources := by rw [← fetch_snd chain now, h]
    obtain ⟨grant, loadedAt⟩ := fresh
    obtain rfl : loadedAt = now := hat
    split
    · next hlast => exact .expired grant hrenew hask hlast
    · next hlast => exact .loaded grant hrenew hask (Int.not_lt.mp hlast)
  · next problem sources h =>
    have hfetch : (chain.fetch now).1 = .error problem := congrArg Prod.fst h
    obtain rfl : (Source.ask chain.sources).2 = sources := by rw [← fetch_snd chain now, h]
    split
    · next old hcached =>
      split
      · next hlast =>
        refine .failed problem hrenew hfetch fun old' hold' => ?_
        obtain rfl : old = old' := Option.some.inj (hcached.symm.trans hold')
        exact hlast
      · next hlast => exact .kept old problem hcached hrenew hfetch (Int.not_lt.mp hlast)
    · next hcached =>
      refine .failed problem hrenew hfetch fun old hold => ?_
      rw [show chain.cached = none from hcached] at hold
      cases hold

/-- Every use ends in one of the ways. -/
lemma used (chain : Chain) (now : Int) : chain.Used now (chain.use now).1 (chain.use now).2 := by
  simp only [use]
  split
  · next old hcached =>
    split
    · next hlast =>
      refine used_refresh fun old' hold' => ?_
      obtain rfl : old = old' := Option.some.inj (hcached.symm.trans hold')
      exact hlast
    · next hlast => exact .cached old hcached (Int.not_lt.mp hlast)
  · next hcached =>
    refine used_refresh fun old hold => ?_
    rw [hcached] at hold
    cases hold

/-- A use that succeeds would succeed again at once: the sources answer as they did. -/
lemma use_again {credentials : Credentials} (h : (chain.use now).1 = .ok credentials) :
    ∃ again, ((chain.use now).2.use now).1 = .ok again := by
  have hfirst := chain.used now
  have hagain := (chain.use now).2.used now
  generalize (chain.use now).1 = result, (chain.use now).2 = between at h hfirst hagain ⊢
  generalize (between.use now).1 = result', (between.use now).2 = after at hagain ⊢
  -- where the second use fails, the sources answered the first one in the same way
  cases hagain with
  | cached old hcached hlast => exact ⟨_, rfl⟩
  | loaded grant hrenew hask hlast => exact ⟨_, rfl⟩
  | kept old problem hcached hrenew hfetch hlast => exact ⟨_, rfl⟩
  | expired grant hrenew hask hlast =>
    cases hfirst with
    | cached old hcached hold => exact absurd (hrenew old hcached) (Int.not_lt.mpr hold)
    | loaded first hrenew' hask' hlast' =>
      rw [asked, Source.ask_ask, hask'] at hask
      obtain rfl : first = grant := by simpa using hask
      exact absurd hlast (Int.not_lt.mpr hlast')
    | expired first hrenew' hask' hlast' => cases h
    | kept old problem hcached hrenew' hfetch hlast' =>
      rw [asked, Source.ask_ask] at hask
      exact absurd hask (ask_ne_of_fetch_error hfetch grant)
    | failed problem hrenew' hfetch hlast' => cases h
  | failed problem hrenew hfetch hlast =>
    cases hfirst with
    | cached old hcached hold => exact absurd (hrenew old hcached) (Int.not_lt.mpr hold)
    | loaded first hrenew' hask' hlast' =>
      refine absurd ?_ (ask_ne_of_fetch_error hfetch first)
      rw [asked, Source.ask_ask, hask']
    | expired first hrenew' hask' hlast' => cases h
    | kept old problem' hcached hrenew' hfetch' hlast' =>
      exact absurd (hlast old hcached) (Int.not_lt.mpr hlast')
    | failed problem' hrenew' hfetch' hlast' => cases h

/-- A use that fails would fail again at once. -/
lemma use_fails_again {problem : Problem} (h : (chain.use now).1 = .error problem) :
    ∃ again, ((chain.use now).2.use now).1 = .error again := by
  have hfirst := chain.used now
  have hagain := (chain.use now).2.used now
  generalize (chain.use now).1 = result, (chain.use now).2 = between at h hfirst hagain ⊢
  generalize (between.use now).1 = result', (between.use now).2 = after at hagain ⊢
  cases hfirst with
  | cached old hcached hlast => cases h
  | loaded grant hrenew hask hlast => cases h
  | kept old problem hcached hrenew hfetch hlast => cases h
  | expired grant hrenew hask hlast =>
    -- what arrived expired is cached, and asked for again
    cases hagain with
    | cached old hcached hold =>
      obtain rfl := Option.some.inj hcached
      exact absurd hold (by simp only [renewBelow]; omega)
    | loaded other hrenew' hask' hlast' =>
      rw [asked, Source.ask_ask, hask] at hask'
      obtain rfl : grant = other := by simpa using hask'
      exact absurd hlast' (Int.not_le.mpr hlast)
    | kept old problem' hcached hrenew' hfetch hold =>
      obtain rfl := Option.some.inj hcached
      exact absurd hold (by simp only [replaceBelow]; omega)
    | expired other hrenew' hask' hlast' => exact ⟨_, rfl⟩
    | failed problem' hrenew' hfetch hlast' => exact ⟨_, rfl⟩
  | failed problem hrenew hfetch hlast =>
    have hnone := ask_ne_of_fetch_error hfetch
    cases hagain with
    | cached old hcached hold => exact absurd (hrenew old hcached) (Int.not_lt.mpr hold)
    | loaded grant hrenew' hask hlast' =>
      rw [asked, Source.ask_ask] at hask
      exact absurd hask (hnone grant)
    | kept old problem' hcached hrenew' hfetch' hold =>
      exact absurd (hlast old hcached) (Int.not_lt.mpr hold)
    | expired grant hrenew' hask hlast' => exact ⟨_, rfl⟩
    | failed problem' hrenew' hfetch' hlast' => exact ⟨_, rfl⟩

/-- A change of a source does not change how often it was asked. -/
lemma loads_updateSource (chain : Chain) (index : Nat) (change : Source → Source) :
    (chain.updateSource index change).loads = chain.loads := by
  simp only [loads, updateSource]
  apply List.ext_getElem?
  intro position
  simp only [List.getElem?_map, List.getElem?_modify]
  cases chain.sources[position]? with
  | none => rfl
  | some source => by_cases hindex : index = position <;> simp [hindex]

end Chain
end Credentials
end Metastore
