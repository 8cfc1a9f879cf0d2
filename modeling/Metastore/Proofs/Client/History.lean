import Metastore.Client
import Metastore.Proofs.Services.Reaction

/-!
# Histories

The operations on documents that clients are run with, and the writes that they make. What a client
should give back is said by the last write of its history.
-/

namespace Metastore.Client

/-- A document that is written for a tenant. -/
structure Write where
  index : Value
  id : Value
  document : Value
  tenant : Value
deriving DecidableEq

/-- The operations on documents. -/
inductive Operation where
  | put (write : Write)
  | bulk (index documents tenant : Value)
  | get (index id tenant : Value)

/-- The writes for the elements of a list, up to the first that is no identifier with a document. -/
def listed (index tenant : Value) : List Value → List Write
  | [] => []
  | element :: rest =>
    match element.pair with
    | .ok (id, document) => ⟨index, id, document, tenant⟩ :: listed index tenant rest
    | .error _ => []

/-- The writes that an operation asks for. -/
def Operation.writes : Operation → List Write
  | put write => [write]
  | bulk index documents tenant => listed index tenant (documents.elements.toOption.getD [])
  | get .. => []

/-- Whether the identifiers, the documents and the tenant of an operation are of certain kinds; a
list of documents has to consist of identifiers with documents. -/
def Operation.Within (Id Document Tenant : Value → Prop) : Operation → Prop
  | put write => Id write.id ∧ Document write.document ∧ Tenant write.tenant
  | bulk _ documents tenant =>
    (∃ elements, documents.elements = .ok elements ∧
      ∀ element ∈ elements, ∃ id document,
        element.pair = .ok (id, document) ∧ Id id ∧ Document document) ∧
      Tenant tenant
  | get _ id tenant => Id id ∧ Tenant tenant

/-- Runs an operation. -/
def Operation.run (client : Client) : Operation → Action Services Failure Value
  | put write => client.put write.index write.id write.document write.tenant
  | bulk index documents tenant => client.bulk index documents tenant
  | get index id tenant => client.get index id tenant

/-- The services after an operation. -/
def Operation.perform (client : Client) (operation : Operation) (s : Services) : Services :=
  (operation.run client s).2

/-- Those of some writes that are made one after another before the first that fails. -/
def madeInTurn (client : Client) : List Write → Services → List Write
  | [], _ => []
  | write :: rest, s =>
    match client.put write.index write.id write.document write.tenant s with
    | (.ok _, after) => write :: madeInTurn client rest after
    | (.error _, _) => []

/-- The writes that an operation makes. A document store takes all that it is asked for or none;
items are written one after another. -/
def Operation.made (client : Client) (operation : Operation) (s : Services) : List Write :=
  match client.delegate with
  | .table .. => client.madeInTurn operation.writes s
  | _ => if (operation.run client s).1.isOk then operation.writes else []

/-- The writes that a run asks for. -/
def asked (events : List (Event Operation)) : List Write :=
  events.flatMap fun event => match event with
    | .perform operation => operation.writes
    | _ => []

/-- The writes that are made in a step of a run. -/
def madeIn (client : Client) (s : Services) : Event Operation → List Write
  | .perform operation => operation.made client s
  | _ => []

/-- The writes that are made in a run. -/
def history (client : Client) (s : Services) : List (Event Operation) → List Write
  | [] => []
  | event :: rest =>
    client.madeIn s event ++ client.history (s.step (Operation.perform client) event) rest

/-- The services after a run of a client. -/
abbrev after (client : Client) (s : Services) (events : List (Event Operation)) : Services :=
  s.run (Operation.perform client) events

/-- The last write with a property. -/
def lastWrite (property : Write → Bool) (history : List Write) : Option Write :=
  history.reverse.find? property

variable {client : Client} {property : Write → Bool}

lemma history_concat (s : Services) (events : List (Event Operation)) (event : Event Operation) :
    client.history s (events ++ [event]) =
      client.history s events ++ client.madeIn (client.after s events) event := by
  induction events generalizing s with
  | nil => simp [history]
  | cons first rest ih => simp [history, ih]

/-- What every operation keeps of the contents of a store and the writes that are made, every run
keeps: the clock and the sources of credentials have no part in what a store holds. -/
lemma kept_run {Contents : Type} {Holds : Contents → Services → Prop}
    {access : Services.Access} {Kept : Contents → List Write → Prop} {start : Services}
    (hframe : ∀ contents s now chains, Holds contents s →
      Holds contents { s with now, chains } ∧ access { s with now, chains } = access s)
    (hperform : ∀ contents history s operation, Holds contents s → Kept contents history →
      ∃ changed, Holds changed (Operation.perform client operation s) ∧
        access (Operation.perform client operation s) = access s ∧
        Kept changed (history ++ operation.made client s))
    {contents : Contents} (hstart : Holds contents start) (hkept : Kept contents [])
    (events : List (Event Operation)) :
    ∃ changed, Holds changed (client.after start events) ∧
      access (client.after start events) = access start ∧
      Kept changed (client.history start events) := by
  refine Services.run_invariant (Operation.perform client) (fun events s =>
    ∃ changed, Holds changed s ∧ access s = access start ∧
      Kept changed (client.history start events)) ?_ ?_ events
  · exact ⟨contents, hstart, rfl, hkept⟩
  · rintro events event ⟨contents, hs, haccess, hkept⟩
    rw [history_concat]
    cases event with
    | perform operation =>
      obtain ⟨changed, hchanged, haccess', hkept'⟩ := hperform contents _ _ operation hs hkept
      exact ⟨changed, hchanged, haccess'.trans haccess, hkept'⟩
    | advance seconds =>
      obtain ⟨hafter, haccess'⟩ := hframe contents _ _ _ hs
      exact ⟨contents, hafter, haccess'.trans haccess, by simpa [madeIn] using hkept⟩
    | updateSource position change =>
      obtain ⟨hafter, haccess'⟩ := hframe contents _ _ _ hs
      exact ⟨contents, hafter, haccess'.trans haccess, by simpa [madeIn] using hkept⟩

/-- The writes of an operation are of the kinds that the operation is of. -/
lemma Operation.Within.of_mem {Id Document Tenant : Value → Prop} {operation : Operation}
    (h : operation.Within Id Document Tenant) {write : Write} (hwrite : write ∈ operation.writes) :
    Id write.id ∧ Document write.document ∧ Tenant write.tenant := by
  cases operation with
  | put only =>
    obtain rfl : write = only := List.mem_singleton.mp hwrite
    exact h
  | bulk index documents tenant =>
    obtain ⟨⟨elements, helements, hpairs⟩, htenant⟩ := h
    rw [writes, helements] at hwrite
    change write ∈ listed index tenant elements at hwrite
    clear helements
    induction elements with
    | nil => cases hwrite
    | cons element rest ih =>
      obtain ⟨id, document, hpair, hid, hdocument⟩ := hpairs element List.mem_cons_self
      rw [listed, hpair] at hwrite
      rcases List.mem_cons.mp hwrite with rfl | hrest
      · exact ⟨hid, hdocument, htenant⟩
      · exact ih (fun element he => hpairs element (List.mem_cons_of_mem _ he)) hrest
  | get index id tenant => cases hwrite

lemma Operation.Within.mono {Id Document Document' Tenant : Value → Prop} {operation : Operation}
    (h : operation.Within Id Document Tenant) (himp : ∀ v, Document v → Document' v) :
    operation.Within Id Document' Tenant := by
  cases operation with
  | put write => exact ⟨h.1, himp _ h.2.1, h.2.2⟩
  | bulk index documents tenant =>
    obtain ⟨⟨elements, helements, hpairs⟩, htenant⟩ := h
    refine ⟨⟨elements, helements, fun element helement => ?_⟩, htenant⟩
    obtain ⟨id, document, hpair, hid, hdocument⟩ := hpairs element helement
    exact ⟨id, document, hpair, hid, himp _ hdocument⟩
  | get index id tenant => exact h

lemma asked_concat (events : List (Event Operation)) (event : Event Operation) :
    asked (events ++ [event]) = asked events ++ asked [event] := by
  simp [asked]

/-- Writes are made in turn as they are asked for. -/
lemma mem_of_madeInTurn {writes : List Write} {s : Services} {write : Write}
    (h : write ∈ client.madeInTurn writes s) : write ∈ writes := by
  induction writes generalizing s with
  | nil => cases h
  | cons first rest ih =>
    rw [madeInTurn] at h
    split at h
    · rcases List.mem_cons.mp h with rfl | hrest
      · exact List.mem_cons_self
      · exact List.mem_cons_of_mem _ (ih hrest)
    · cases h

/-- Every write that an operation makes is one that it asks for. -/
lemma Operation.mem_writes_of_made {operation : Operation} {s : Services} {write : Write}
    (h : write ∈ operation.made client s) : write ∈ operation.writes := by
  rw [Operation.made] at h
  split at h
  · exact mem_of_madeInTurn h
  · split at h
    · exact h
    · cases h

/-- Every write that is made is asked for by an operation of the run. -/
lemma exists_operation_of_history {s : Services} {events : List (Event Operation)} {write : Write}
    (h : write ∈ client.history s events) :
    ∃ operation, .perform operation ∈ events ∧ write ∈ operation.writes := by
  induction events generalizing s with
  | nil => cases h
  | cons event rest ih =>
    rcases List.mem_append.mp h with hfirst | hrest
    · cases event with
      | perform operation =>
        exact ⟨operation, List.mem_cons_self, Operation.mem_writes_of_made hfirst⟩
      | advance seconds => cases hfirst
      | updateSource position change => cases hfirst
    · obtain ⟨operation, hmem, hwrite⟩ := ih hrest
      exact ⟨operation, List.mem_cons_of_mem _ hmem, hwrite⟩

lemma exists_operation_of_asked {events : List (Event Operation)} {write : Write}
    (h : write ∈ asked events) :
    ∃ operation, .perform operation ∈ events ∧ write ∈ operation.writes := by
  obtain ⟨event, hevent, hwrite⟩ := List.mem_flatMap.mp h
  cases event with
  | perform operation => exact ⟨operation, hevent, hwrite⟩
  | advance seconds => cases hwrite
  | updateSource position change => cases hwrite

/-- A run makes every write that it asks for if every operation in it does. -/
lemma history_eq_asked_of_made {start : Services} {events : List (Event Operation)}
    (h : ∀ before operation, before ++ [.perform operation] <+: events →
      operation.made client (client.after start before) = operation.writes) :
    client.history start events = asked events := by
  suffices hprefixes : ∀ before, before <+: events → client.history start before = asked before from
    hprefixes events List.prefix_rfl
  intro before
  induction before using List.reverseRecOn with
  | nil => intro _; rfl
  | append_singleton before event ih =>
    intro hbefore
    rw [history_concat, asked_concat, ih ((List.prefix_append before [event]).trans hbefore)]
    congr 1
    cases event with
    | perform operation =>
      rw [madeIn, h before operation hbefore]
      simp [asked]
    | advance seconds => rfl
    | updateSource position change => rfl

lemma lastWrite_concat (history : List Write) (write : Write) :
    lastWrite property (history ++ [write]) =
      if property write then some write else lastWrite property history := by
  simp only [lastWrite, List.reverse_append, List.reverse_singleton, List.singleton_append,
    List.find?_cons]
  split <;> simp_all

/-- Writes without the property make no difference. -/
lemma lastWrite_append_of_not {more : List Write} (h : ∀ write ∈ more, property write = false)
    (history : List Write) :
    lastWrite property (history ++ more) = lastWrite property history := by
  have hnone : more.reverse.find? property = none := by simpa using h
  rw [lastWrite, List.reverse_append, List.find?_append, hnone, Option.none_or, lastWrite]

lemma property_of_lastWrite {history : List Write} {write : Write}
    (h : lastWrite property history = some write) : property write = true :=
  List.find?_some h

lemma mem_of_lastWrite {history : List Write} {write : Write}
    (h : lastWrite property history = some write) : write ∈ history :=
  List.mem_reverse.mp (List.mem_of_find?_eq_some h)

end Metastore.Client
