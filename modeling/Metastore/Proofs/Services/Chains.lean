import Mathlib
import Metastore.Proofs.Action
import Metastore.Services

/-!
# Chains of services

Credentials are looked up in the chain that they refer to. A look-up changes that chain and nothing
else, and so does the signature of a request.
-/

namespace Metastore.Services

open Credentials (Chain Deferred)

variable {s : Services} {credentials other : Deferred} {chain : Chain}

lemma chainOf?_setChain (h : s.chainOf? credentials = some chain) (changed : Chain) :
    (s.setChain credentials changed).chainOf? credentials = some changed := by
  obtain ⟨hlength, -⟩ := List.getElem?_eq_some_iff.mp h
  simp [chainOf?, setChain, hlength]

lemma chainOf?_setChain_of_ne (h : other ≠ credentials) (changed : Chain) :
    (s.setChain credentials changed).chainOf? other = s.chainOf? other := by
  have hposition : credentials.chain.position ≠ other.chain.position := by
    obtain ⟨⟨position⟩⟩ := credentials
    obtain ⟨⟨position'⟩⟩ := other
    simpa [eq_comm] using h
  rw [chainOf?, setChain, List.getElem?_set_ne hposition, chainOf?]

/-- A change of the sources reaches the chain of all credentials. -/
lemma chainOf?_map (s : Services) (change : Chain → Chain) (credentials : Deferred) :
    chainOf? { s with chains := s.chains.map change } credentials =
      (s.chainOf? credentials).map change :=
  List.getElem?_map

lemma lookUp_of_chain (h : s.chainOf? credentials = some chain) :
    lookUp credentials s =
      ((chain.use s.now).1, s.setChain credentials (chain.use s.now).2) := by
  rw [lookUp, h]

lemma lookUp_of_none (h : s.chainOf? credentials = none) :
    lookUp credentials s = (.error (.auth (.noSource [])), s) := by
  rw [lookUp, h]

/-- Looking credentials up changes nothing but chains. -/
lemma lookUp_eq (credentials : Deferred) (s : Services) :
    ∃ chains, (lookUp credentials s).2 = { s with chains } := by
  cases hchain : s.chainOf? credentials with
  | none => exact ⟨s.chains, by rw [lookUp_of_none hchain]⟩
  | some chain => exact ⟨_, by rw [lookUp_of_chain hchain]; rfl⟩

/-- A request is signed with the credentials that are found. -/
lemma sign_apply (credentials : Deferred) (region serviceName : Value) (s : Services) :
    sign credentials region serviceName s =
      ((lookUp credentials s).1.map fun found => ⟨found.accessKey, found.token, region, serviceName⟩,
        (lookUp credentials s).2) := by
  rw [sign, Action.bind_apply]
  rcases lookUp credentials s with ⟨problem | found, after⟩ <;> rfl

end Metastore.Services
