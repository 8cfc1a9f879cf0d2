import Metastore.Proofs.Action
import Metastore.Proofs.Client.History
import Metastore.Proofs.Services.Reaction
import Metastore.Proofs.Value.Mapping

/-!
# What document stores hold

A client that keeps documents in a document store leaves the stamped document of the last write at
every place, over every run and whichever operations fail.
-/

namespace Metastore

namespace Tenancy

variable {field tenant document : Value} {entries : Mapping}

/-- A stamped document has the tenant in the field. -/
lemma get?_of_stamp (happlies : applies field tenant = true)
    (hstamp : stamp document field tenant = .ok entries) :
    field.isKey = true ∧ entries.get? field = some tenant := by
  rw [stamp, if_pos happlies] at hstamp
  cases document with
  | map old =>
    simp only [Value.spread, Value.setEntry] at hstamp
    change (if field.isKey then Except.ok (Mapping.set old field tenant)
      else .error Problem.wrongType) = _ at hstamp
    split at hstamp
    · next hkey =>
      obtain rfl : Mapping.set old field tenant = entries := Except.ok.inj hstamp
      exact ⟨hkey, Mapping.get?_set_self hkey old tenant⟩
    · cases hstamp
  | _ => cases hstamp

/-- A mapping can be stamped with a text as the field. -/
lemma stamp_map {name t : String} (hname : name ≠ "") (old : Mapping) :
    stamp (.map old) (.text name) (.text t) = .ok (old.setText name (.text t)) := by
  have happlies : applies (.text name) (.text t) = true := by
    simpa [applies, Value.truthy, Value.isNull] using hname
  rw [stamp, if_pos happlies]
  rfl

lemma exists_stamp (hkey : field.isKey = true) (old : Mapping) (tenant : Value) :
    ∃ entries, stamp (.map old) field tenant = .ok entries := by
  rw [stamp]
  by_cases happlies : applies field tenant = true
  · refine ⟨old.set field tenant, ?_⟩
    rw [if_pos happlies]
    show Value.setEntry old field tenant = _
    rw [Value.setEntry, if_pos hkey]
  · rw [if_neg happlies]
    exact ⟨old, rfl⟩

end Tenancy

namespace Target

variable {target : Target} {documents : Documents} {s : Services} {field tenant : Value}

/-! ### Storing -/

lemma reach_bind {wanted : Except Problem Documents} {next : Action Services Failure Value}
    (hs : target.Holds documents s)
    (h : Changes target.Holds target.access documents wanted s (next s)) :
    Changes target.Holds target.access documents wanted s ((target.reach >>= fun _ => next) s) := by
  cases hthere : target.isThere s with
  | true =>
    rw [Action.bind_of_ok (show target.reach s = (.ok (), s) by rw [reach, hthere, if_pos rfl])]
    exact h
  | false =>
    rw [Action.bind_of_error (show target.reach s = (.error (.of .notAMapping), s) by
      rw [reach, hthere, if_neg Bool.false_ne_true])]
    refine .failed hs rfl ?_
    rintro ⟨signed, hsigned, -⟩
    rw [isThere_of_access hsigned] at hthere
    cases hthere

/-- What a store is to hold after a document was put. -/
def putting (documents : Documents) (field index id document tenant : Value) :
    Except Problem Documents := do
  let stamped ← Tenancy.stamp document field tenant
  return documents.put index id (.map stamped)

lemma put_changes (hs : target.Holds documents s) (field index id document tenant : Value) :
    Changes target.Holds target.access documents
      (putting documents field index id document tenant) s
      (target.put field index id document tenant s) := by
  rw [put, putting]
  refine reach_bind hs (.lift_bind hs fun stamped _ => ?_)
  exact .of_reaction (call_reaction hs (.put index id stamped))

/-- What a store is to hold after a list of documents was put. -/
def puttingAll (documents : Documents) (field index list tenant : Value) :
    Except Problem Documents := do
  let elements ← list.elements
  let lines ← elements.mapM (lineOf field index tenant)
  return lines.foldl (fun docs line => docs.put line.index line.id (.map line.document)) documents

lemma bulk_changes (hs : target.Holds documents s) (field index list tenant : Value) :
    Changes target.Holds target.access documents (puttingAll documents field index list tenant) s
      (target.bulk field index list tenant s) := by
  rw [bulk, puttingAll]
  refine .lift_bind hs fun elements _ => .lift_bind hs fun lines _ => ?_
  cases lines with
  | nil => exact .done rfl hs rfl (.refl s)
  | cons line rest => exact reach_bind hs (.of_reaction (call_reaction hs (.bulk (line :: rest))))

lemma mapM_eq_ok {α β : Type} {f : α → Except Problem β} {items : List α}
    (h : ∀ item ∈ items, ∃ b, f item = .ok b) : ∃ results, items.mapM f = .ok results := by
  induction items with
  | nil => exact ⟨[], rfl⟩
  | cons item rest ih =>
    obtain ⟨b, hb⟩ := h item List.mem_cons_self
    obtain ⟨more, hmore⟩ := ih fun item hitem => h item (List.mem_cons_of_mem _ hitem)
    refine ⟨b :: more, ?_⟩
    rw [List.mapM_cons, hb, hmore]
    rfl

/-- Identifiers with documents that can be stamped make lines. -/
lemma exists_lines {elements : List Value}
    (h : ∀ element ∈ elements, ∃ id document, element.pair = .ok (id, document) ∧
      ∃ entries, Tenancy.stamp document field tenant = .ok entries) (index : Value) :
    ∃ lines, elements.mapM (lineOf field index tenant) = .ok lines := by
  apply mapM_eq_ok
  intro element helement
  obtain ⟨id, document, hpair, entries, hentries⟩ := h element helement
  exact ⟨⟨index, id, entries⟩, except_bind_eq_ok.mpr
    ⟨_, hpair, except_bind_eq_ok.mpr ⟨entries, hentries, rfl⟩⟩⟩

/-! ### Getting -/

/-- The reply to a request for a document. -/
def replyTo (documents : Documents) (index id : Value) : Value :=
  (Requests.respond (DocumentRequest.get index id) documents).1

/-- Getting changes nothing. It gives what the reply shows, or the store was not ready. -/
lemma get_cases (hs : target.Holds documents s) (field index id tenant : Value) :
    ∃ result after, target.get field index id tenant s = (result, after) ∧
      target.Holds documents after ∧ target.access after = target.access s ∧
      (result = (documentOf field tenant (replyTo documents index id)).mapError .of ∨
        (∃ failure, result = .error failure) ∧ ¬ s.Ready target.access) := by
  have hreaction := call_reaction hs (.get index id)
  rw [get]
  generalize target.call (.get index id) s = outcome at hreaction ⊢
  cases hreaction with
  | @answered after hafter haccess hkept =>
    refine ⟨_, after, rfl, ?_, haccess, .inl rfl⟩
    simp only [Requests.respond, DocumentRequest.respond] at hafter
    split at hafter <;> exact hafter
  | @refused failure after hafter haccess hnot hreason =>
    refine ⟨.error failure, after, ?_, hafter, haccess, .inr ⟨⟨failure, rfl⟩, hnot⟩⟩
    dsimp only
    rw [if_neg hreason]

/-- A document that is not found is null. -/
lemma documentOf_missing {index id : Value} (h : documents.get? index id = none)
    (field tenant : Value) :
    documentOf field tenant (replyTo documents index id) = .ok .null := by
  simp only [replyTo, Requests.respond, DocumentRequest.respond, h]
  rfl

/-- A document that is found is shown if it is the tenant's. -/
lemma documentOf_found {index id document : Value} (h : documents.get? index id = some document)
    (field tenant : Value) :
    documentOf field tenant (replyTo documents index id) =
      if Tenancy.applies field tenant then do
        let owner ← fieldOf (document.orElse (.map [])) field
        return if owner.same tenant then document.orElse (.map []) else .null
      else return document.orElse (.map []) := by
  simp only [replyTo, Requests.respond, DocumentRequest.respond, h]
  rfl

lemma fieldOf_map {entries : Mapping} {v : Value} (hkey : field.isKey = true)
    (h : entries.get? field = some v) : fieldOf (.map entries) field = .ok v := by
  show (if field.isKey then Except.ok (Mapping.get entries field)
    else Except.error Problem.wrongType) = _
  rw [if_pos hkey, Mapping.get, h, Option.getD_some]

/-- A document that was stamped with a tenant is shown to that tenant only. -/
lemma documentOf_stamped {index id document : Value} {entries : Mapping} {owner : String}
    (hfield : field.truthy = true)
    (hstamp : Tenancy.stamp document field (.text owner) = .ok entries)
    (h : documents.get? index id = some (.map entries)) (t : String) :
    documentOf field (.text t) (replyTo documents index id) =
      .ok (if owner = t then .map entries else .null) := by
  have happlies (u : String) : Tenancy.applies field (.text u) = true := by
    simp [Tenancy.applies, hfield, Value.isNull]
  obtain ⟨hkey, hget⟩ := Tenancy.get?_of_stamp (happlies owner) hstamp
  have hne : entries ≠ [] := by
    rintro rfl
    cases hget
  have hdocument : (Value.map entries).orElse (.map []) = .map entries := by
    simp [Value.orElse, Value.truthy, hne]
  rw [documentOf_found h, if_pos (happlies t), hdocument, fieldOf_map hkey hget]
  show Except.ok (if (Value.text owner).same (.text t) = true then Value.map entries else .null) = _
  simp only [Value.same, beq_iff_eq]

end Target

/-! ### Clients -/

/-- The document store in which a delegate keeps documents, if it keeps them in one. -/
def Delegate.target? : Delegate → Option Target
  | callerStore .. => some .callerStore
  | cluster _ => some .cluster
  | table .. => none

namespace Client

variable {client : Client} {target : Target} {documents : Documents} {s : Services}
  {history : List Write}

lemma put_changes (htarget : client.delegate.target? = some target) (hs : target.Holds documents s)
    (index id document tenant : Value) :
    Changes target.Holds target.access documents
      (Target.putting documents client.tenantField index id document (client.tenant tenant)) s
      (client.put index id document tenant s) := by
  obtain ⟨delegate, multiTenancy⟩ := client
  cases delegate with
  | callerStore registry field =>
    obtain rfl : .callerStore = target := Option.some.inj htarget
    exact Target.put_changes hs field index id document _
  | cluster backend =>
    obtain rfl : .cluster = target := Option.some.inj htarget
    exact (Target.put_changes hs backend.tenantField index id document _).surfacing
  | table region search field => cases htarget

lemma bulk_changes (htarget : client.delegate.target? = some target) (hs : target.Holds documents s)
    (index list tenant : Value) :
    Changes target.Holds target.access documents
      (Target.puttingAll documents client.tenantField index list (client.tenant tenant)) s
      (client.bulk index list tenant s) := by
  obtain ⟨delegate, multiTenancy⟩ := client
  cases delegate with
  | callerStore registry field =>
    obtain rfl : .callerStore = target := Option.some.inj htarget
    exact Target.bulk_changes hs field index list _
  | cluster backend =>
    obtain rfl : .cluster = target := Option.some.inj htarget
    exact (Target.bulk_changes hs backend.tenantField index list _).surfacing
  | table region search field => cases htarget

/-- Getting changes nothing. It gives what the reply shows, or the store was not ready. -/
lemma get_cases (htarget : client.delegate.target? = some target) (hs : target.Holds documents s)
    (index id tenant : Value) :
    ∃ result after, client.get index id tenant s = (result, after) ∧ target.Holds documents after ∧
      target.access after = target.access s ∧
      ((∀ value, result = .ok value ↔ Target.documentOf client.tenantField (client.tenant tenant)
          (Target.replyTo documents index id) = .ok value) ∨
        (∃ failure, result = .error failure) ∧ ¬ s.Ready target.access) := by
  obtain ⟨result, after, hget, hafter, haccess, hresult⟩ :=
    Target.get_cases hs client.tenantField index id (client.tenant tenant)
  have hclient : ∃ surface, client.get index id tenant s = (result.mapError surface, after) := by
    obtain ⟨delegate, multiTenancy⟩ := client
    cases delegate with
    | callerStore registry field =>
      obtain rfl : .callerStore = target := Option.some.inj htarget
      refine ⟨fun failure => failure, hget.trans ?_⟩
      cases result <;> rfl
    | cluster backend =>
      obtain rfl : .cluster = target := Option.some.inj htarget
      refine ⟨Failure.surface, ?_⟩
      show Failure.surfacing (Target.cluster.get backend.tenantField index id _) s = _
      rw [Failure.surfacing]
      exact congrArg (fun outcome => (outcome.1.mapError Failure.surface, outcome.2)) hget
    | table region search field => cases htarget
  obtain ⟨surface, hclient⟩ := hclient
  refine ⟨_, after, hclient, hafter, haccess, ?_⟩
  rcases hresult with rfl | ⟨⟨failure, rfl⟩, hnot⟩
  · refine .inl fun value => ?_
    rw [mapError_eq_ok, mapError_eq_ok]
  · exact .inr ⟨⟨surface failure, rfl⟩, hnot⟩

/-- The document that is stored for a write. -/
def stored (client : Client) (write : Write) : Option Value :=
  (Tenancy.stamp write.document client.tenantField (client.tenant write.tenant)).toOption.map .map

/-- Whether a write is for a place. -/
def Write.isAt (index id : Value) (write : Write) : Bool :=
  decide (write.index = index ∧ write.id = id)

/-- Whether a store holds at every place the document of the last write of a history. -/
def Recorded (client : Client) (documents : Documents) (history : List Write) : Prop :=
  ∀ index id, documents.get? index id = (lastWrite (Write.isAt index id) history).bind client.stored

lemma Recorded.put (h : client.Recorded documents history) (write : Write) {entries : Mapping}
    (hstamp : Tenancy.stamp write.document client.tenantField (client.tenant write.tenant) =
      .ok entries) :
    client.Recorded (documents.put write.index write.id (.map entries)) (history ++ [write]) := by
  intro index id
  rw [lastWrite_concat]
  by_cases hat : write.index = index ∧ write.id = id
  · obtain ⟨rfl, rfl⟩ := hat
    rw [Documents.get?_put_self]
    simp [Write.isAt, stored, hstamp, Except.toOption]
  · have hne : (write.index, write.id) ≠ (index, id) := by simpa using hat
    rw [Documents.get?_put_of_ne documents (.map entries) hne, h index id]
    simp [Write.isAt, hat]

lemma Recorded.listed (h : client.Recorded documents history) {index tenant : Value}
    {elements : List Value} {lines : List BulkLine}
    (hlines : elements.mapM (Target.lineOf client.tenantField index (client.tenant tenant)) =
      .ok lines) :
    client.Recorded
      (lines.foldl (fun docs line => docs.put line.index line.id (.map line.document)) documents)
      (history ++ listed index tenant elements) := by
  induction elements generalizing documents history lines with
  | nil =>
    obtain rfl : [] = lines := Except.ok.inj hlines
    simpa [Client.listed] using h
  | cons element rest ih =>
    rw [List.mapM_cons] at hlines
    obtain ⟨line, hline, hrest⟩ := except_bind_eq_ok.mp hlines
    obtain ⟨more, hmore, hpure⟩ := except_bind_eq_ok.mp hrest
    obtain rfl : line :: more = lines := Except.ok.inj hpure
    obtain ⟨⟨id, document⟩, hpair, hstamped⟩ := except_bind_eq_ok.mp hline
    obtain ⟨entries, hstamp, hpure'⟩ := except_bind_eq_ok.mp hstamped
    obtain rfl : ⟨index, id, entries⟩ = line := Except.ok.inj hpure'
    have hput := h.put ⟨index, id, document, tenant⟩ hstamp
    have hlisted : Client.listed index tenant (element :: rest) =
        ⟨index, id, document, tenant⟩ :: Client.listed index tenant rest := by
      rw [Client.listed, hpair]
    rw [hlisted, List.foldl_cons, List.append_cons]
    exact ih hput hmore

/-! ### Runs -/

lemma made_of_target (htarget : client.delegate.target? = some target) (operation : Operation)
    (s : Services) :
    operation.made client s = if (operation.run client s).1.isOk then operation.writes else [] := by
  rw [Operation.made]
  split
  · next hdelegate =>
    rw [hdelegate] at htarget
    cases htarget
  · rfl

/-- What is to be recorded is so exactly if the action succeeds. -/
lemma Recorded.of_changes (h : client.Recorded documents history)
    {wanted : Except Problem Documents} {writes : List Write}
    {outcome : Except Failure Value × Services}
    (hchanges : Changes target.Holds target.access documents wanted s outcome)
    (hwrites : ∀ changed, wanted = .ok changed → client.Recorded changed (history ++ writes)) :
    ∃ changed, target.Holds changed outcome.2 ∧ target.access outcome.2 = target.access s ∧
      client.Recorded changed (history ++ if outcome.1.isOk then writes else []) := by
  cases hchanges with
  | done hwanted hafter haccess hkept => exact ⟨_, hafter, haccess, hwrites _ hwanted⟩
  | failed hafter haccess hwhy =>
    refine ⟨documents, hafter, haccess, ?_⟩
    simpa [Except.isOk, Except.toBool] using h

lemma Recorded.perform (h : client.Recorded documents history)
    (htarget : client.delegate.target? = some target) (hs : target.Holds documents s)
    (operation : Operation) :
    ∃ changed, target.Holds changed (operation.perform client s) ∧
      target.access (operation.perform client s) = target.access s ∧
      client.Recorded changed (history ++ operation.made client s) := by
  rw [made_of_target htarget, Operation.perform]
  cases operation with
  | put write =>
    refine h.of_changes (put_changes htarget hs write.index write.id write.document write.tenant) ?_
    intro changed hchanged
    obtain ⟨entries, hstamp, hput⟩ := except_bind_eq_ok.mp hchanged
    obtain rfl := Except.ok.inj hput
    exact h.put write hstamp
  | bulk index list tenant =>
    refine h.of_changes (bulk_changes htarget hs index list tenant) ?_
    intro changed hchanged
    obtain ⟨elements, helements, hlines⟩ := except_bind_eq_ok.mp hchanged
    obtain ⟨lines, hmap, hput⟩ := except_bind_eq_ok.mp hlines
    obtain rfl := Except.ok.inj hput
    rw [Operation.writes, helements]
    exact h.listed hmap
  | get index id tenant =>
    obtain ⟨result, after, hget, hafter, haccess, -⟩ := get_cases htarget hs index id tenant
    refine ⟨documents, ?_, ?_, by simpa [Operation.writes] using h⟩
    · rw [Operation.run, hget]
      exact hafter
    · rw [Operation.run, hget]
      exact haccess

/-- After every run, a store that was empty holds the document of the last write at every place. -/
lemma recorded_after (htarget : client.delegate.target? = some target) {start : Services}
    (hstart : target.Holds [] start) (events : List (Event Operation)) :
    ∃ documents, target.Holds documents (client.after start events) ∧
      target.access (client.after start events) = target.access start ∧
      client.Recorded documents (client.history start events) := by
  refine kept_run ?_ ?_ hstart (fun index id => rfl) events
  · intro documents s now chain hs
    cases target <;> exact ⟨hs, rfl⟩
  · intro documents history s operation hs h
    exact h.perform htarget hs operation

/-! ### Stores that can be reached -/

/-- Where the store can be asked, mappings are stamped and stored as they are asked for. -/
lemma made_eq_writes (htarget : client.delegate.target? = some target)
    (hs : target.Holds documents s) (hready : s.Ready target.access) {operation : Operation}
    {Id Document Tenant : Value → Prop} (hop : operation.Within Id Document Tenant)
    (hstamp : ∀ document tenant, Document document → Tenant tenant →
      ∃ entries, Tenancy.stamp document client.tenantField (client.tenant tenant) = .ok entries) :
    operation.made client s = operation.writes := by
  rw [made_of_target htarget]
  cases operation with
  | put write =>
    obtain ⟨-, hdocument, htenant⟩ := hop
    obtain ⟨entries, hentries⟩ := hstamp _ _ hdocument htenant
    have hput : Target.putting documents client.tenantField write.index write.id write.document
        (client.tenant write.tenant) = .ok (documents.put write.index write.id (.map entries)) :=
      except_bind_eq_ok.mpr ⟨entries, hentries, rfl⟩
    obtain ⟨value, after, hdone, -⟩ := (put_changes htarget hs _ _ _ _).done_of_ready hput hready
    rw [Operation.run, hdone]
    rfl
  | bulk index list tenant =>
    obtain ⟨⟨elements, helements, hpairs⟩, htenant⟩ := hop
    have hstamps : ∀ element ∈ elements, ∃ id document, element.pair = .ok (id, document) ∧
        ∃ entries, Tenancy.stamp document client.tenantField (client.tenant tenant) =
          .ok entries := by
      intro element helement
      obtain ⟨id, document, hpair, -, hdocument⟩ := hpairs element helement
      exact ⟨id, document, hpair, hstamp _ _ hdocument htenant⟩
    obtain ⟨lines, hlines⟩ := Target.exists_lines hstamps index
    have hput : Target.puttingAll documents client.tenantField index list (client.tenant tenant) =
        .ok (lines.foldl
          (fun docs line => docs.put line.index line.id (.map line.document)) documents) :=
      except_bind_eq_ok.mpr ⟨elements, helements, except_bind_eq_ok.mpr ⟨lines, hlines, rfl⟩⟩
    obtain ⟨value, after, hdone, -⟩ := (bulk_changes htarget hs _ _ _).done_of_ready hput hready
    rw [Operation.run, hdone]
    rfl
  | get index id tenant => exact ite_self _

/-- Where the store can be reached all along, every write that is asked for is made. -/
lemma history_eq_asked (htarget : client.delegate.target? = some target) {start : Services}
    (hstart : target.Holds [] start) {Id Document Tenant : Value → Prop}
    (hstamp : ∀ document tenant, Document document → Tenant tenant →
      ∃ entries, Tenancy.stamp document client.tenantField (client.tenant tenant) = .ok entries)
    {events : List (Event Operation)}
    (hops : ∀ operation, .perform operation ∈ events → operation.Within Id Document Tenant)
    (hreach : Services.Reachable target.access (Operation.perform client) start events) :
    client.history start events = asked events := by
  refine history_eq_asked_of_made fun before operation hbefore => ?_
  obtain ⟨documents, hs, haccess, -⟩ := recorded_after htarget hstart before
  have hready := (hreach.before ((List.prefix_append before _).trans hbefore)).ready haccess
  exact made_eq_writes htarget hs hready (hops operation (hbefore.subset (by simp))) hstamp

end Client
end Metastore
