import Metastore.Client.Items
import Metastore.Proofs.Credentials.Use
import Metastore.Proofs.Run
import Metastore.Proofs.Services.Chains

/-!
# Requests to services

A service for which no reply is prepared answers a request by its contents, or the request never
gets there. What a client does with its services is proved by cases on `Reaction`, without opening
how requests are signed and recorded.
-/

namespace Metastore

open Credentials (Chain Deferred)

/-! ### Signing -/

namespace Services

/-- Whether a request could be signed now with some credentials. -/
def CanSign (s : Services) (credentials : Deferred) : Prop :=
  ∃ chain, s.chainOf? credentials = some chain ∧ ∃ found, (chain.use s.now).1 = .ok found

/-- Whether one can still sign with whatever one could sign with. -/
def StillSigns (s after : Services) : Prop :=
  ∀ credentials, s.CanSign credentials → after.CanSign credentials

lemma StillSigns.refl (s : Services) : s.StillSigns s := fun _ => id

/-- The ways in which signing a request can end, with the credentials that are to sign it, if it is to
be signed. Only chains of credentials change. -/
inductive Signing {α : Type} (signer : Option Deferred) (s : Services) :
    Except Problem α × Services → Prop where
  | signed (signature : α) (chains : List Chain) (hkept : s.StillSigns { s with chains }) :
      Signing signer s (.ok signature, { s with chains })
  | unsigned (problem : Problem) (chains : List Chain) {credentials : Deferred}
      (hsigner : signer = some credentials) (hnot : ¬ s.CanSign credentials) :
      Signing signer s (.error problem, { s with chains })

variable {s : Services} {credentials : Deferred} {signer : Option Deferred} {α β : Type}

/-- A chain that was used successfully can be used again. -/
lemma stillSigns_setChain {chain : Chain} {found : Credentials}
    (hchain : s.chainOf? credentials = some chain) (hused : (chain.use s.now).1 = .ok found) :
    s.StillSigns (s.setChain credentials (chain.use s.now).2) := by
  rintro other ⟨chain', hchain', hcan⟩
  by_cases hother : other = credentials
  · rw [hother]
    exact ⟨_, chainOf?_setChain hchain _, Chain.use_again hused⟩
  · exact ⟨chain', (chainOf?_setChain_of_ne hother _).trans hchain', hcan⟩

lemma signing_lookUp (credentials : Deferred) (s : Services) :
    Signing (some credentials) s (lookUp credentials s) := by
  cases hchain : s.chainOf? credentials with
  | none =>
    rw [lookUp_of_none hchain]
    refine .unsigned _ s.chains rfl ?_
    rintro ⟨chain, hchain', -⟩
    rw [hchain] at hchain'
    cases hchain'
  | some chain =>
    rw [lookUp_of_chain hchain]
    cases hused : (chain.use s.now).1 with
    | error problem =>
      refine .unsigned problem _ rfl ?_
      rintro ⟨chain', hchain', found, hfound⟩
      obtain rfl : chain = chain' := Option.some.inj (hchain.symm.trans hchain')
      rw [hused] at hfound
      cases hfound
    | ok found => exact .signed found _ (stillSigns_setChain hchain hused)

/-- An action that passes the result of another one on ends like it. -/
lemma Signing.map {action : Action Services Problem α} (f : α → β)
    (h : Signing signer s (action s)) : Signing signer s ((f <$> action) s) := by
  rw [Action.map_apply]
  generalize action s = outcome at h
  cases h with
  | signed signature chains hkept => exact .signed (f signature) chains hkept
  | unsigned problem chains hsigner hnot => exact .unsigned problem chains hsigner hnot

lemma signing_sign (credentials : Deferred) (region serviceName : Value) (s : Services) :
    Signing (some credentials) s (sign credentials region serviceName s) := by
  rw [sign_apply, ← Action.map_apply]
  exact (signing_lookUp credentials s).map _

end Services

/-- The credentials that requests over a transport are signed with, if they are signed. -/
def Transport.signer? (transport : Transport) : Option Deferred :=
  match transport.authentication with
  | .signing credentials _ _ => some credentials
  | _ => none

namespace Services

lemma signing_signFor (transport : Transport) (request : DocumentRequest) (s : Services) :
    Signing transport.signer? s (signFor transport request s) := by
  rw [Transport.signer?]
  cases hauth : transport.authentication with
  | signing credentials region serviceName =>
    simp only [signFor, hauth]
    split
    · exact .signed none s.chains (.refl s)
    · exact (signing_sign credentials region serviceName s).map some
  | anonymous =>
    simp only [signFor, hauth]
    exact .signed none s.chains (.refl s)
  | basic user password =>
    simp only [signFor, hauth]
    exact .signed none s.chains (.refl s)

lemma signing_signForTable (credentials : Deferred) (region : Value) (request : TableRequest)
    (s : Services) : Signing (some credentials) s (signForTable credentials region request s) := by
  rw [signForTable]
  split
  · exact .signed none s.chains (.refl s)
  · exact (signing_sign credentials region (.text tableServiceName) s).map some

end Services

/-! ### Reactions -/

lemma Service.answer_of_unprepared {Request Contents : Type} [Requests Request Contents]
    {service : Service Request Contents} (h : service.prepared = []) (request : Request) :
    service.answer request = (.ok (Requests.respond request service.contents).1,
      { service with contents := (Requests.respond request service.contents).2 }) := by
  rw [Service.answer, h]
  rfl

/-- What says of services whether a store is there and, if it is, which credentials requests to it are
signed with, if they are signed. -/
abbrev Services.Access := Services → Option (Option Deferred)

open Services (Access)

/-- Whether a store is there and, if requests to it are signed, they could be signed now. -/
def Services.Ready (access : Access) (s : Services) : Prop :=
  ∃ signer, access s = some signer ∧ ∀ credentials, signer = some credentials → s.CanSign credentials

lemma Services.Ready.of_access {access : Access} {s after : Services}
    (h : Ready access s) (haccess : access after = access s) (hkept : s.StillSigns after) :
    Ready access after := by
  obtain ⟨signer, hsigner, hcan⟩ := h
  exact ⟨signer, haccess.trans hsigner, fun credentials hsome => hkept _ (hcan credentials hsome)⟩

/-- Whether a store is there when a run starts and, if requests to it are signed, they could be
signed all along. -/
def Services.Reachable {Operation : Type} (access : Access)
    (perform : Operation → Services → Services) (start : Services)
    (events : List (Event Operation)) : Prop :=
  ∃ signer, access start = some signer ∧ ∀ credentials, signer = some credentials →
    ∀ before, before <+: events → (start.run perform before).CanSign credentials

lemma Services.Reachable.before {Operation : Type} {access : Access}
    {perform : Operation → Services → Services} {start : Services}
    {before events : List (Event Operation)} (h : Reachable access perform start events)
    (hbefore : before <+: events) : Reachable access perform start before := by
  obtain ⟨signer, hsigner, hcan⟩ := h
  exact ⟨signer, hsigner, fun credentials hsome before' hbefore' =>
    hcan credentials hsome before' (hbefore'.trans hbefore)⟩

/-- A store that can be reached all along a run is ready at its end. -/
lemma Services.Reachable.ready {Operation : Type} {access : Access}
    {perform : Operation → Services → Services} {start : Services} {events : List (Event Operation)}
    (h : Reachable access perform start events)
    (haccess : access (start.run perform events) = access start) :
    (start.run perform events).Ready access := by
  obtain ⟨signer, hsigner, hcan⟩ := h
  exact ⟨signer, haccess.trans hsigner, fun credentials hsome =>
    hcan credentials hsome events List.prefix_rfl⟩

/-- The ways in which a request to a store can end, where `Holds` says what the store holds and
`Reason` why a request may be refused. -/
inductive Reaction {Request Contents : Type} [Requests Request Contents]
    (Holds : Contents → Services → Prop) (access : Access)
    (Reason : Problem → Prop) (contents : Contents) (request : Request) (s : Services) :
    Except Failure Value × Services → Prop where
  | answered {after : Services} (hafter : Holds (Requests.respond request contents).2 after)
      (haccess : access after = access s) (hkept : s.StillSigns after) :
      Reaction Holds access Reason contents request s
        (.ok (Requests.respond request contents).1, after)
  | refused {failure : Failure} {after : Services} (hafter : Holds contents after)
      (haccess : access after = access s) (hnot : ¬ s.Ready access)
        (hreason : Reason failure.problem) :
      Reaction Holds access Reason contents request s (.error failure, after)

namespace Target

variable {target : Target} {documents : Documents} {s : Services}

/-- The store, if it is there. -/
def service? : Target → Services → Option DocumentService
  | callerStore, s => s.callerStore
  | cluster, s => s.cluster.map (·.service)

/-- Whether a store, if it is there, holds exactly some documents and has no reply prepared. -/
def Holds (target : Target) (documents : Documents) (s : Services) : Prop :=
  ∀ service, target.service? s = some service → service.contents = documents ∧ service.prepared = []

/-- What requests to the store are signed with, if it is there. -/
def access : Target → Access
  | callerStore, s => s.callerStore.map fun _ => none
  | cluster, s => s.cluster.map (·.transport.signer?)

lemma isThere_of_access {signer : Option Deferred} (h : target.access s = some signer) :
    target.isThere s = true := by
  cases target with
  | callerStore =>
    obtain ⟨store, hstore, -⟩ := Option.map_eq_some_iff.mp h
    rw [isThere, hstore, Option.isSome_some]
  | cluster =>
    obtain ⟨cluster, hcluster, -⟩ := Option.map_eq_some_iff.mp h
    rw [isThere, hcluster, Option.isSome_some]

/-- A document store is asked or cannot be reached; no request fails for want of a document. -/
lemma call_reaction (h : target.Holds documents s) (request : DocumentRequest) :
    Reaction target.Holds target.access (· ≠ .documentMissing) documents request s
      (target.call request s) := by
  cases target with
  | callerStore =>
    rw [call, Services.callStore]
    split
    · next hnone =>
      refine .refused h rfl ?_ (by decide)
      rintro ⟨signer, hsigner, -⟩
      simp [access, hnone] at hsigner
    · next store hstore =>
      obtain ⟨rfl, hprepared⟩ := h store hstore
      have hanswer := Service.answer_of_unprepared
        (show (store.record request none).prepared = [] from hprepared) request
      rw [hanswer]
      refine .answered ?_ (by simp [access, hstore]) (.refl s)
      rintro service ⟨⟩
      exact ⟨rfl, hprepared⟩
  | cluster =>
    rw [call, Services.callCluster]
    split
    · next hnone =>
      refine .refused h rfl ?_ (by decide)
      rintro ⟨signer, hsigner, -⟩
      simp [access, hnone] at hsigner
    · next cluster hcluster =>
      obtain ⟨rfl, hprepared⟩ := h cluster.service (by simp [service?, hcluster])
      have hsigning := Services.signing_signFor cluster.transport request s
      generalize Services.signFor cluster.transport request s = outcome at hsigning ⊢
      cases hsigning with
      | unsigned problem chains hsigner hnot =>
        refine .refused ?_ (by simp [access, hcluster]) ?_
          (by simp [Failure.problem, Failure.carrying])
        · rintro service ⟨⟩
          exact ⟨rfl, hprepared⟩
        · rintro ⟨signer, haccess, hcan⟩
          exact hnot (hcan _ (by simpa [access, hcluster, hsigner] using haccess.symm))
      | signed signature chains hkept =>
        have hanswer := Service.answer_of_unprepared
          (show (cluster.service.record request signature).prepared = [] from hprepared) request
        dsimp only
        rw [hanswer]
        refine .answered ?_ (by simp [access, hcluster]) hkept
        rintro service ⟨⟩
        exact ⟨rfl, hprepared⟩

end Target

namespace Services

variable {items : Items} {s : Services}

/-- Whether the table service, if there is one, holds exactly some items and has no reply
prepared. -/
def TableHolds (items : Items) (s : Services) : Prop :=
  ∀ table, s.table = some table → table.service.contents = items ∧ table.service.prepared = []

/-- Requests to a table service are signed with its credentials. -/
def tableAccess : Access := fun s => s.table.map fun table => some table.credentials

lemma callTable_reaction (h : TableHolds items s) (request : TableRequest) :
    Reaction TableHolds tableAccess (fun _ => True) items request s (callTable request s) := by
  rw [callTable]
  split
  · next hnone =>
    refine .refused h rfl ?_ trivial
    rintro ⟨signer, hsigner, -⟩
    simp [tableAccess, hnone] at hsigner
  · next table htable =>
    obtain ⟨rfl, hprepared⟩ := h table htable
    have hsigning := signing_signForTable table.credentials table.region request s
    generalize signForTable table.credentials table.region request s = outcome at hsigning ⊢
    cases hsigning with
    | unsigned problem chains hsigner hnot =>
      refine .refused ?_ (by simp [tableAccess, htable]) ?_ trivial
      · rintro table' ⟨⟩
        exact ⟨rfl, hprepared⟩
      · rintro ⟨signer, haccess, hcan⟩
        exact hnot (hcan _ (by simpa [tableAccess, htable, hsigner] using haccess.symm))
    | signed signature chains hkept =>
      have hanswer := Service.answer_of_unprepared
        (show (table.service.record request signature).prepared = [] from hprepared) request
      dsimp only
      rw [hanswer]
      refine .answered ?_ (by simp [tableAccess, htable]) hkept
      rintro table' ⟨⟩
      exact ⟨rfl, hprepared⟩

end Services

namespace Services

variable {α β : Type} {x : Except Problem α}

lemma lift_bind_of_ok {a : α} (h : x = .ok a) (next : α → Action Services Failure β) :
    (lift x >>= next) = next a := by
  funext s
  rw [h]
  exact Action.bind_of_ok rfl next

lemma lift_bind_of_error {problem : Problem} (h : x = .error problem)
    (next : α → Action Services Failure β) (s : Services) :
    (lift x >>= next) s = (.error (.of problem), s) := by
  rw [h]
  exact Action.bind_of_error rfl next

end Services

/-! ### Changes -/

/-- The ways in which an action that is to change what a store holds can end. -/
inductive Changes {Contents : Type} (Holds : Contents → Services → Prop)
    (access : Access) (contents : Contents) (wanted : Except Problem Contents)
    (s : Services) :
    Except Failure Value × Services → Prop where
  | done {value : Value} {after : Services} {changed : Contents} (hwanted : wanted = .ok changed)
      (hafter : Holds changed after) (haccess : access after = access s)
      (hkept : s.StillSigns after) :
      Changes Holds access contents wanted s (.ok value, after)
  | failed {failure : Failure} {after : Services} (hafter : Holds contents after)
      (haccess : access after = access s)
      (hwhy : s.Ready access → ∃ problem, wanted = .error problem) :
      Changes Holds access contents wanted s (.error failure, after)

namespace Changes

variable {Contents α : Type} {Holds : Contents → Services → Prop} {access : Access}
  {contents : Contents} {s : Services}

lemma of_reaction {Request : Type} [Requests Request Contents] {Reason : Problem → Prop}
    {request : Request} {outcome : Except Failure Value × Services}
    (h : Reaction Holds access Reason contents request s outcome) :
    Changes Holds access contents (.ok (Requests.respond request contents).2) s outcome := by
  cases h with
  | answered hafter haccess hkept => exact .done rfl hafter haccess hkept
  | refused hafter haccess hnot hreason =>
    exact .failed hafter haccess fun hready => absurd hready hnot

/-- What has to be read first may turn out wrong. -/
lemma lift_bind {x : Except Problem α} {wanted : α → Except Problem Contents}
    {next : α → Action Services Failure Value} (hs : Holds contents s)
    (h : ∀ a, x = .ok a → Changes Holds access contents (wanted a) s (next a s)) :
    Changes Holds access contents (x >>= wanted) s ((Services.lift x >>= next) s) := by
  cases hx : x with
  | error problem =>
    rw [Services.lift_bind_of_error rfl]
    exact .failed hs rfl fun _ => ⟨problem, rfl⟩
  | ok a =>
    rw [Services.lift_bind_of_ok rfl]
    exact h a hx

lemma surfacing {wanted : Except Problem Contents} {action : Action Services Failure Value}
    (h : Changes Holds access contents wanted s (action s)) :
    Changes Holds access contents wanted s (Failure.surfacing action s) := by
  rw [Failure.surfacing]
  generalize action s = outcome at h
  cases h with
  | done hwanted hafter haccess hkept => exact .done hwanted hafter haccess hkept
  | failed hafter haccess hwhy => exact .failed hafter haccess hwhy

/-- What can be done is done where the store can be asked. -/
lemma done_of_ready {wanted : Except Problem Contents} {outcome : Except Failure Value × Services}
    (h : Changes Holds access contents wanted s outcome) {changed : Contents}
    (hwanted : wanted = .ok changed) (hready : s.Ready access) :
    ∃ value after, outcome = (.ok value, after) ∧ Holds changed after ∧ after.Ready access := by
  cases h with
  | done hwanted' hafter haccess hkept =>
    obtain rfl := Except.ok.inj (hwanted.symm.trans hwanted')
    exact ⟨_, _, rfl, hafter, hready.of_access haccess hkept⟩
  | failed hafter haccess hwhy =>
    obtain ⟨problem, hproblem⟩ := hwhy hready
    rw [hwanted] at hproblem
    cases hproblem

end Changes
end Metastore
