import Metastore.Proofs.Services.Reaction
import Metastore.Proofs.Services.Traffic

/-!
# Stores that stay ready

A request changes neither that a document store is ready nor that it is not: one that could be
answered leaves a store that can be asked again, and one that was refused would be refused again.
Either way the store records it.
-/

namespace Metastore

namespace Services

open Credentials (Chain Deferred)

variable {s after : Services} {credentials : Deferred}

/-- Whether one can sign now with exactly what one could sign with. -/
def SignsAlike (s after : Services) : Prop :=
  ∀ credentials, after.CanSign credentials ↔ s.CanSign credentials

lemma SignsAlike.refl (s : Services) : s.SignsAlike s := fun _ => Iff.rfl

lemma canSign_iff {chain : Chain} (h : s.chainOf? credentials = some chain) :
    s.CanSign credentials ↔ ∃ found, (chain.use s.now).1 = .ok found := by
  rw [CanSign, h]
  simp

/-- Looking credentials up does not change whether they, or any others, can be found. -/
lemma signsAlike_lookUp (credentials : Deferred) (s : Services) :
    s.SignsAlike (lookUp credentials s).2 := by
  intro other
  cases hchain : s.chainOf? credentials with
  | none => rw [lookUp_of_none hchain]
  | some chain =>
    rw [lookUp_of_chain hchain]
    by_cases hother : other = credentials
    · rw [hother, canSign_iff hchain, canSign_iff (chainOf?_setChain hchain _)]
      change (∃ found, ((chain.use s.now).2.use s.now).1 = .ok found) ↔ _
      cases hresult : (chain.use s.now).1 with
      | ok found => exact iff_of_true (Chain.use_again hresult) ⟨found, rfl⟩
      | error problem =>
        obtain ⟨again, hagain⟩ := Chain.use_fails_again hresult
        simp [hagain]
    · rw [CanSign, chainOf?_setChain_of_ne hother]
      exact Iff.rfl

lemma sign_of_not_canSign (h : ¬ s.CanSign credentials) (region serviceName : Value) :
    ∃ problem, (sign credentials region serviceName s).1 = .error problem := by
  rw [sign_apply]
  cases hchain : s.chainOf? credentials with
  | none =>
    rw [lookUp_of_none hchain]
    exact ⟨_, rfl⟩
  | some chain =>
    rw [lookUp_of_chain hchain]
    cases hresult : (chain.use s.now).1 with
    | ok found => exact absurd ⟨chain, hchain, found, hresult⟩ h
    | error problem => exact ⟨problem, rfl⟩

lemma signsAlike_signFor (transport : Transport) (request : DocumentRequest) (s : Services) :
    s.SignsAlike (signFor transport request s).2 := by
  cases hauth : transport.authentication with
  | signing credentials region serviceName =>
    rw [signFor_eq hauth]
    split
    · exact .refl s
    · rw [sign_apply]
      exact signsAlike_lookUp credentials s
  | _ =>
    simp only [signFor, hauth]
    exact .refl s

lemma Ready.congr {access : Access} (haccess : access after = access s) (halike : s.SignsAlike after) :
    after.Ready access ↔ s.Ready access := by
  rw [Ready, Ready, haccess]
  simp only [halike _]

end Services

namespace Target

variable {target : Target} {documents : Documents} {s : Services} {request : DocumentRequest}

lemma signsAlike_call (target : Target) (request : DocumentRequest) (s : Services) :
    s.SignsAlike (target.call request s).2 := by
  cases target with
  | callerStore =>
    rw [call, Services.callStore]
    split
    · exact .refl s
    · exact fun _ => Iff.rfl
  | cluster =>
    cases hcluster : s.cluster with
    | none =>
      rw [call, Services.callCluster, hcluster]
      exact .refl s
    | some cluster =>
      obtain ⟨service, -, hafter⟩ := Services.callCluster_after hcluster request
      rw [call, hafter]
      exact Services.signsAlike_signFor cluster.transport request s

lemma ready_call (hs : target.Holds documents s) (request : DocumentRequest) :
    (target.call request s).2.Ready target.access ↔ s.Ready target.access := by
  have haccess : target.access (target.call request s).2 = target.access s := by
    have hreaction := call_reaction hs request
    generalize target.call request s = outcome at hreaction ⊢
    cases hreaction with
    | answered hafter haccess hkept => exact haccess
    | refused hafter haccess hnot hreason => exact haccess
  exact Services.Ready.congr haccess (signsAlike_call target request s)

/-- A store that is not ready refuses every request, apart from one that ends the connection. -/
lemma call_of_not_ready (hnot : ¬ s.Ready target.access) (hopen : request.isClose = false) :
    ∃ failure, (target.call request s).1 = .error failure := by
  cases target with
  | callerStore =>
    rw [call, Services.callStore]
    split
    · exact ⟨_, rfl⟩
    · next store hstore =>
      refine absurd ⟨none, by simp [access, hstore], ?_⟩ hnot
      rintro credentials ⟨⟩
  | cluster =>
    rw [call, Services.callCluster]
    split
    · exact ⟨_, rfl⟩
    · next cluster hcluster =>
      have haccess : access .cluster s = some cluster.transport.signer? := by
        simp [access, hcluster]
      cases hauth : cluster.transport.authentication with
      | signing credentials region serviceName =>
        have hsigner : cluster.transport.signer? = some credentials := by
          rw [Transport.signer?, hauth]
        have hcan : ¬ s.CanSign credentials := by
          refine fun hcan => hnot ⟨_, haccess, fun other hother => ?_⟩
          rwa [Option.some.inj (hother.symm.trans hsigner)]
        obtain ⟨problem, hproblem⟩ := Services.sign_of_not_canSign hcan region serviceName
        rw [Services.signFor_eq hauth, hopen, if_neg Bool.false_ne_true, hproblem]
        exact ⟨_, rfl⟩
      | _ =>
        refine absurd ⟨_, haccess, ?_⟩ hnot
        intro credentials hsigner
        rw [Transport.signer?, hauth] at hsigner
        cases hsigner

/-- What a store holds after a request: what the answer leaves if the store is ready, and what it
held before otherwise. -/
lemma holds_call (hs : target.Holds documents s) (request : DocumentRequest)
    (hopen : request.isClose = false) :
    (s.Ready target.access → target.Holds (Requests.respond request documents).2
        (target.call request s).2) ∧
      (¬ s.Ready target.access → target.Holds documents (target.call request s).2) := by
  have hreaction := call_reaction hs request
  have hrefused (hnot : ¬ s.Ready target.access) := call_of_not_ready hnot hopen
  generalize target.call request s = outcome at hreaction hrefused ⊢
  cases hreaction with
  | answered hafter haccess hkept =>
    refine ⟨fun _ => hafter, ?_⟩
    intro hnot
    obtain ⟨failure, ⟨⟩⟩ := hrefused hnot
  | refused hafter haccess hnot hreason =>
    exact ⟨fun hready => absurd hready hnot, fun _ => hafter⟩

/-! ### The record -/

/-- The requests that a store received, if it is there. -/
def asked (target : Target) (s : Services) : Option (List DocumentRequest) :=
  (target.service? s).map fun store => store.calls.map (·.request)

/-- A store records every request, whether it is answered or not. -/
lemma asked_call (target : Target) (request : DocumentRequest) (s : Services) :
    target.asked (target.call request s).2 = (target.asked s).map (· ++ [request]) := by
  cases target with
  | callerStore =>
    rw [call, Services.callStore]
    cases hstore : s.callerStore with
    | none => simp [asked, service?, hstore]
    | some store => simp [asked, service?, hstore, Services.calls_answer, Service.record]
  | cluster =>
    cases hcluster : s.cluster with
    | none => simp [asked, service?, call, Services.callCluster, hcluster]
    | some cluster =>
      obtain ⟨service, hcalls, hafter⟩ := Services.callCluster_after hcluster request
      rw [call, hafter]
      simp [asked, service?, hcluster, hcalls]

end Target
end Metastore
