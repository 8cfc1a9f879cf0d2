import Metastore.Proofs.Client.Documents

/-!
# Owners of documents

With multi-tenancy, a document in a document store belongs to the tenant of the last write to its
place: this tenant gets it, with the tenant field set, and no other tenant does.
-/

namespace Metastore.Client

variable {client : Client} {target : Target} {documents : Documents} {s start : Services}
  {history : List Write}

/-- What a tenant is to get for the last write to a place. -/
def shownTo (client : Client) (t : String) (write : Write) : Value :=
  if write.tenant = .text t then (client.stored write).getD .null else .null

lemma tenant_of_multiTenancy (hmulti : client.multiTenancy = true) (tenant : Value) :
    client.tenant tenant = tenant := by
  rw [Client.tenant, hmulti, if_pos rfl]

lemma stored_of_text (hmulti : client.multiTenancy = true) {write : Write} {owner : String}
    (howner : write.tenant = .text owner) :
    client.stored write =
      (Tenancy.stamp write.document client.tenantField (.text owner)).toOption.map .map := by
  rw [stored, tenant_of_multiTenancy hmulti, howner]

/-- A reply shows the last write to its own tenant. -/
lemma documentOf_recorded (hmulti : client.multiTenancy = true)
    (hfield : client.tenantField.truthy = true) (hrecorded : client.Recorded documents history)
    (htenants : ∀ write ∈ history, ∃ t, write.tenant = .text t) (index id : Value) (t : String) :
    Target.documentOf client.tenantField (.text t) (Target.replyTo documents index id) =
      .ok (((lastWrite (Write.isAt index id) history).map (client.shownTo t)).getD .null) := by
  have hget := hrecorded index id
  cases hlast : lastWrite (Write.isAt index id) history with
  | none =>
    rw [hlast] at hget
    exact Target.documentOf_missing hget client.tenantField (.text t)
  | some write =>
    obtain ⟨owner, howner⟩ := htenants write (mem_of_lastWrite hlast)
    rw [hlast, Option.bind_some] at hget
    rw [Option.map_some, Option.getD_some, shownTo, howner]
    have hstored := stored_of_text hmulti howner
    cases hstamp : Tenancy.stamp write.document client.tenantField (.text owner) with
    | error problem =>
      rw [hstamp] at hstored
      rw [hstored] at hget ⊢
      rw [Target.documentOf_missing hget, Except.toOption, Option.map_none, Option.getD_none,
        ite_self]
    | ok entries =>
      rw [hstamp] at hstored
      rw [hstored] at hget ⊢
      rw [Target.documentOf_stamped hfield hstamp hget t, Except.toOption, Option.map_some,
        Option.getD_some]
      simp only [Value.text.injEq]

/-- What a tenant gets is what the last write is to show it; where the store can be asked, the
tenant gets it. -/
lemma get_recorded (htarget : client.delegate.target? = some target)
    (hmulti : client.multiTenancy = true) (hfield : client.tenantField.truthy = true)
    (hs : target.Holds documents s) (hrecorded : client.Recorded documents history)
    (htenants : ∀ write ∈ history, ∃ t, write.tenant = .text t) (index id : Value) (t : String) :
    (∀ answer, (client.get index id (.text t) s).1 = .ok answer →
      answer = ((lastWrite (Write.isAt index id) history).map (client.shownTo t)).getD .null) ∧
    (s.Ready target.access → ∃ answer, (client.get index id (.text t) s).1 = .ok answer) := by
  obtain ⟨result, after, hget, -, -, hresult⟩ := get_cases htarget hs index id (.text t)
  have hshown := documentOf_recorded hmulti hfield hrecorded htenants index id t
  rw [tenant_of_multiTenancy hmulti] at hresult
  rw [hget]
  rcases hresult with hiff | ⟨⟨failure, rfl⟩, hnot⟩
  · constructor
    · intro answer hanswer
      rw [hiff answer, hshown] at hanswer
      exact (Except.ok.inj hanswer).symm
    · intro _
      exact ⟨_, (hiff _).mpr hshown⟩
  · constructor
    · intro answer hanswer
      cases hanswer
    · intro hready
      exact absurd hready hnot

/-- In every run of operations that name tenants and write mappings, on a store that was empty: a
tenant who asks for a document gets it exactly if the last write to its place was made for this
tenant, and then as it was written, with the field set to the tenant. Where the store can be reached
all along, every write is made and every tenant who asks is answered. -/
theorem document_of_last_writer (htarget : client.delegate.target? = some target)
    (hmulti : client.multiTenancy = true) {f : String} (hfield : client.tenantField = .text f)
    (hf : f ≠ "") (hstart : target.Holds [] start) (events : List (Event Operation))
    (hops : ∀ operation, .perform operation ∈ events → operation.Within (fun _ => True)
      (fun document => ∃ entries, document = .map entries) (fun tenant => ∃ t, tenant = .text t))
    (index id : Value) (t : String) :
    (∀ answer, (client.get index id (.text t) (client.after start events)).1 = .ok answer →
      (answer ≠ .null ↔ ∃ write,
        lastWrite (Write.isAt index id) (client.history start events) = some write ∧
          write.tenant = .text t) ∧
      ∀ write (entries : Mapping),
        lastWrite (Write.isAt index id) (client.history start events) = some write →
          write.tenant = .text t → write.document = .map entries →
        answer = .map (entries.setText f (.text t))) ∧
    (Services.Reachable target.access (Operation.perform client) start events →
      client.history start events = asked events ∧
        ∃ answer, (client.get index id (.text t) (client.after start events)).1 = .ok answer) := by
  have hshape : ∀ write ∈ client.history start events,
      (∃ t, write.tenant = .text t) ∧ ∃ entries, write.document = .map entries := by
    intro write hwrite
    obtain ⟨operation, hmem, hasked⟩ := exists_operation_of_history hwrite
    obtain ⟨-, hdocument, htenant⟩ := (hops operation hmem).of_mem hasked
    exact ⟨htenant, hdocument⟩
  have htruthy : client.tenantField.truthy = true := by simp [hfield, Value.truthy, hf]
  have hstored (write : Write) (old : Mapping) (owner : String)
      (hdocument : write.document = .map old) (howner : write.tenant = .text owner) :
      client.stored write = some (.map (old.setText f (.text owner))) := by
    rw [stored_of_text hmulti howner, hfield, hdocument, Tenancy.stamp_map hf]
    rfl
  obtain ⟨documents, hs, haccess, hrecorded⟩ := recorded_after htarget hstart events
  obtain ⟨hanswers, hready⟩ := get_recorded htarget hmulti htruthy hs hrecorded
    (fun write hwrite => (hshape write hwrite).1) index id t
  constructor
  · intro answer hanswer
    obtain rfl := hanswers answer hanswer
    cases hlast : lastWrite (Write.isAt index id) (client.history start events) with
    | none => simp
    | some write =>
      obtain ⟨⟨owner, howner⟩, old, hdocument⟩ := hshape write (mem_of_lastWrite hlast)
      rw [Option.map_some, Option.getD_some, shownTo, hstored write old owner hdocument howner]
      constructor
      · simp
      · rintro write' entries ⟨⟩ htenant hentries
        obtain rfl : old = entries := Value.map.inj (hdocument.symm.trans hentries)
        obtain rfl : owner = t := Value.text.inj (howner.symm.trans htenant)
        rw [if_pos htenant, Option.getD_some]
  · intro hreach
    constructor
    · refine history_eq_asked htarget hstart ?_ hops hreach
      rintro document tenant ⟨old, rfl⟩ ⟨owner, rfl⟩
      rw [tenant_of_multiTenancy hmulti, hfield]
      exact ⟨_, Tenancy.stamp_map hf old⟩
    · exact hready (hreach.ready haccess)

/-- A tenant field that a writer sets is not believed, and of two lines for one place the later one
counts. -/
theorem document_of_last_writer_forged :
    let client : Client := { delegate := .callerStore .null (.text "tenant"), multiTenancy := true }
    let start : Services := { callerStore := some { contents := [] } }
    let forged : Value := .map [(.text "tenant", .text "B"), (.text "x", .int 1)]
    let events : List (Event Operation) := [
      .perform (.put ⟨.text "i", .text "d", forged, .text "B"⟩),
      .perform (.bulk (.text "i") (.list [.list [.text "d", .map []], .list [.text "d", forged]])
        (.text "A"))]
    (client.get (.text "i") (.text "d") (.text "A") (client.after start events)).1 =
        .ok (.map [(.text "tenant", .text "A"), (.text "x", .int 1)]) ∧
      (client.get (.text "i") (.text "d") (.text "B") (client.after start events)).1 =
        .ok .null := by
  intro client start forged events
  have hstart : Target.callerStore.Holds [] start := by
    rintro service ⟨⟩
    exact ⟨rfl, rfl⟩
  have hops : ∀ operation, .perform operation ∈ events →
      operation.Within (fun _ => True) (fun document => ∃ entries, document = .map entries)
        (fun tenant => ∃ t, tenant = .text t) := by
    intro operation hoperation
    rcases List.mem_cons.mp hoperation with hput | hbulk
    · obtain rfl := Event.perform.inj hput
      exact ⟨trivial, ⟨_, rfl⟩, _, rfl⟩
    · obtain rfl := Event.perform.inj (List.mem_singleton.mp hbulk)
      refine ⟨⟨_, rfl, ?_⟩, _, rfl⟩
      intro element helement
      rcases List.mem_cons.mp helement with rfl | hsecond
      · exact ⟨_, _, rfl, trivial, _, rfl⟩
      · obtain rfl := List.mem_singleton.mp hsecond
        exact ⟨_, _, rfl, trivial, _, rfl⟩
  have hreach :
      Services.Reachable Target.callerStore.access (Operation.perform client) start events :=
    ⟨none, rfl, fun credentials h => by cases h⟩
  have hmain := document_of_last_writer
    (show client.delegate.target? = some .callerStore from rfl) rfl rfl
    (by decide) hstart events hops (.text "i") (.text "d")
  obtain ⟨hshown, hreached⟩ := hmain "A"
  obtain ⟨hhidden, hreached'⟩ := hmain "B"
  obtain ⟨hasked, answer, hanswer⟩ := hreached hreach
  obtain ⟨-, answer', hanswer'⟩ := hreached' hreach
  have hlast : lastWrite (Write.isAt (.text "i") (.text "d")) (client.history start events) =
      some ⟨.text "i", .text "d", forged, .text "A"⟩ := by
    rw [hasked]
    rfl
  constructor
  · rw [hanswer, (hshown answer hanswer).2 _ _ hlast rfl rfl]
    rfl
  · have hnull : answer' = .null := by
      refine Classical.byContradiction fun hne => ?_
      obtain ⟨write, hwrite, htenant⟩ := (hhidden answer' hanswer').1.mp hne
      rw [hlast] at hwrite
      cases hwrite
      exact absurd htenant (by decide)
    rw [hanswer', hnull]

end Metastore.Client
