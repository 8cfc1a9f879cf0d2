import Metastore.Proofs.Client.Requests
import Metastore.Proofs.Failure.Walk

/-!
# How failures come out

A request that fails ends the command that led to it. What comes out is the credential problem that
is met first on the way back from the failure, or the failure itself if none is met; a client that
works on the caller's own store does not look. The one failure that does not come out is that of a
document which a document store does not have.
-/

namespace Metastore

variable {failure : Failure}

/-! ### Failures -/

namespace Failure

/-- Whether a failure is what is raised in place of another: the credential problem that is met
first on the way back from it, or the failure itself if none is met. -/
inductive Surfaces (failure : Failure) : Failure → Prop where
  | met {found : Nat} (h : failure.graph.MeetsFirst failure.start found) :
      Surfaces failure { failure with start := found }
  | same (h : ∀ found, ¬ failure.graph.MeetsFirst failure.start found) : Surfaces failure failure

lemma Surfaces.eq_of_met {raised : Failure} (h : failure.Surfaces raised) {found : Nat}
    (hmet : failure.graph.MeetsFirst failure.start found) :
    raised = { failure with start := found } := by
  cases h with
  | met h => rw [h.unique hmet]
  | same h => exact absurd hmet (h found)

/-- A credential problem is met at once. -/
lemma meetsFirst_of_isAuth (h : failure.problem.isAuth = true) :
    failure.graph.MeetsFirst failure.start failure.start := by
  refine ⟨0, ?_, ?_⟩
  · rw [problem] at h
    split at h
    · next node hnode =>
      rw [FailureGraph.metAfter_zero hnode, FailureGraph.authAt?, if_pos h]
    · cases h
  · intro fewer hfewer
    exact absurd hfewer (Nat.not_lt_zero fewer)

lemma surfaces_surface (hordinary : failure.problem.isOrdinary = true) :
    failure.Surfaces failure.surface := by
  by_cases hauth : failure.problem.isAuth = true
  · have hsame : failure.surface = failure := by simp [surface, hauth]
    rw [hsame]
    exact .met (meetsFirst_of_isAuth hauth)
  · have hcond : ¬ ((failure.problem.isAuth || !failure.problem.isOrdinary) = true) := by
      simp [hauth, hordinary]
    rw [surface, if_neg hcond]
    cases hfind : failure.graph.findAuth (some failure.start) with
    | some found => exact .met (FailureGraph.findAuth_eq_some_iff.mp hfind)
    | none =>
      apply Surfaces.same
      intro found hmet
      rw [FailureGraph.findAuth_eq_some_iff.mpr hmet] at hfind
      cases hfind

end Failure

/-! ### Commands -/

namespace Client

variable {client : Client} {command : Command} {registry region field : Value}
  {backend : ClusterBackend} {s after : Services}

/-- Whether a command takes a failure for a document that is not there: only getting a document from
a document store does. -/
def TakesForMissing (client : Client) (command : Command) (failure : Failure) : Prop :=
  (∃ index id tenant, command = .operate (.get index id tenant)) ∧
    client.delegate.target?.isSome = true ∧ failure.problem = .documentMissing

/-- The ways in which a failure of a request can come out of the command that led to it. -/
inductive ComesOut (client : Client) (command : Command) (failure : Failure) :
    Except Failure Value → Prop where
  | missing (htakes : client.TakesForMissing command failure) :
      ComesOut client command failure (.ok .null)
  | asItIs (htakes : ¬ client.TakesForMissing command failure) (hlocal : client.kind = .local) :
      ComesOut client command failure (.error failure)
  | surfaced {raised : Failure} (htakes : ¬ client.TakesForMissing command failure)
      (hremote : client.kind ≠ .local) (h : failure.Surfaces raised) :
      ComesOut client command failure (.error raised)

/-- What a client makes of a failure of a document store. -/
lemma answerTo_error (field : Value) (htarget : client.delegate.target?.isSome = true) :
    (client.TakesForMissing command failure ∧
        command.answerTo client field (.error failure) = .ok .null) ∨
      (¬ client.TakesForMissing command failure ∧
        command.answerTo client field (.error failure) = .error failure) := by
  by_cases hget : ∃ index id tenant, command = .operate (.get index id tenant)
  · by_cases hmissing : failure.problem = .documentMissing
    · refine .inl ⟨⟨hget, htarget, hmissing⟩, ?_⟩
      obtain ⟨index, id, tenant, rfl⟩ := hget
      rw [Command.answerTo, Target.gotten, if_pos hmissing]
    · refine .inr ⟨fun htakes => hmissing htakes.2.2, ?_⟩
      obtain ⟨index, id, tenant, rfl⟩ := hget
      rw [Command.answerTo, Target.gotten, if_neg hmissing]
  · refine .inr ⟨fun htakes => hget htakes.1, ?_⟩
    rw [Command.answerTo]
    rintro index id tenant rfl
    exact hget ⟨index, id, tenant, rfl⟩

lemma kind_ne_local (backend : ClusterBackend) : backend.kind ≠ .local := by
  rw [ClusterBackend.kind]
  split
  · exact DelegateKind.noConfusion
  · exact DelegateKind.noConfusion

lemma comesOut_answerFailure (client : Client) (command : Command)
    (hordinary : failure.problem.isOrdinary = true) :
    client.ComesOut command failure (client.answerFailure command failure) := by
  have hsurfaces := Failure.surfaces_surface hordinary
  rw [answerFailure]
  cases hdelegate : client.delegate with
  | callerStore registry field =>
    have hlocal : client.kind = .local := by rw [kind, hdelegate]; rfl
    have htarget : client.delegate.target?.isSome = true := by rw [hdelegate]; rfl
    show client.ComesOut command failure (command.answerTo client field (.error failure))
    rcases answerTo_error field htarget with ⟨htakes, hanswer⟩ | ⟨htakes, hanswer⟩
    · rw [hanswer]
      exact .missing htakes
    · rw [hanswer]
      exact .asItIs htakes hlocal
  | cluster backend =>
    have hremote : client.kind ≠ .local := by rw [kind, hdelegate]; exact kind_ne_local backend
    have htarget : client.delegate.target?.isSome = true := by rw [hdelegate]; rfl
    show client.ComesOut command failure
      ((command.answerTo client backend.tenantField (.error failure)).mapError Failure.surface)
    rcases answerTo_error backend.tenantField htarget with ⟨htakes, hanswer⟩ | ⟨htakes, hanswer⟩
    · rw [hanswer]
      exact .missing htakes
    · rw [hanswer]
      exact .surfaced htakes hremote hsurfaces
  | table region search field =>
    have hremote : client.kind ≠ .local := by rw [kind, hdelegate]; exact DelegateKind.noConfusion
    apply ComesOut.surfaced _ hremote hsurfaces
    rintro ⟨-, htarget, -⟩
    rw [hdelegate] at htarget
    cases htarget

/-- Where a request fails, the command that led to it comes to an end, and the failure comes out as
the credential problem that is met first on the way back from it, or else as itself. -/
theorem failure_comes_out
    (h : Services.sendAll Request.send (client.requests command) s = (.error failure, after))
    (hordinary : failure.problem.isOrdinary = true) :
    client.ComesOut command failure (command.run client s).1 ∧
      (command.run client s).2 = after := by
  have hopen : command ≠ .close := by
    rintro rfl
    rw [requests_close] at h
    cases h
  have hfollows := client.run_follows hopen s
  rw [h] at hfollows
  constructor
  · rw [hfollows.result_eq failure rfl]
    exact comesOut_answerFailure client command hordinary
  · exact hfollows.services_eq

/-- The second of two documents is refused by a table service, with failures that lead back to each
other in a circle; one of them carries a credential problem. -/
theorem failure_comes_out_of_circle :
    let client : Client := {
      delegate := .table (.text "eu") ⟨⟨.null, ⟨.https, "h", 443⟩, .anonymous, none, 20, false⟩,
        .null⟩ .null }
    let circle : FailureGraph := [
      { problem := .runtime, cause := some 1, context := some 2 },
      { problem := .sourceFailed, info := .failure 2, context := some 0 },
      { problem := .auth (.stated "denied"), context := some 0 }]
    let start : Services := {
      chains := [{ sources := [{ method := "env", accessKey := some "key" }] }]
      table := some {
        region := .text "eu"
        credentials := ⟨⟨0⟩⟩
        service := {
          contents := []
          prepared := [("put_item", .answer .null), ("put_item", .failure ⟨circle, 0⟩)] }
        builtElevated := false } }
    let documents : Value := .list [.list [.text "a", .map []], .list [.text "b", .map []]]
    (client.bulk (.text "i") documents .null start).1 = .error ⟨circle, 2⟩ := by
  intro client circle start documents
  have hmet : FailureGraph.MeetsFirst circle 0 2 := by
    refine ⟨1, by decide, ?_⟩
    intro fewer hfewer
    obtain rfl : fewer = 0 := by omega
    decide
  have hsent : Services.sendAll Request.send
      (client.requests (.operate (.bulk (.text "i") documents .null))) start =
        (.error ⟨circle, 0⟩, (client.bulk (.text "i") documents .null start).2) := by
    rfl
  obtain ⟨hout, -⟩ := failure_comes_out hsent rfl
  change client.ComesOut _ _ (client.bulk (.text "i") documents .null start).1 at hout
  generalize (client.bulk (.text "i") documents .null start).1 = result at hout ⊢
  cases hout with
  | missing htakes => cases htakes.2.2
  | asItIs htakes hlocal => cases hlocal
  | surfaced htakes hremote h => rw [h.eq_of_met hmet]

end Client
end Metastore
