import Metastore.Proofs.Client.Building
import Metastore.Proofs.Client.Commands
import Metastore.Proofs.Client.Documents
import Metastore.Proofs.Credentials.Resolution
import Metastore.Proofs.Json.RoundTrip

/-!
# Refused requests

Where nothing is cached and no source has credentials, every request is refused. A command then
either sends none or fails with its first one; the failure is the credential problem itself, in
whichever shape the service reported it, and nothing that is stored changes.
-/

namespace Metastore

open Services (Wired Composed)

variable {credentials : Credentials.Deferred} {region serviceName : Value} {s : Services}
  {chain : Credentials.Chain}

namespace Credentials

/-- Whether nothing is cached, and no source has credentials or fails. -/
structure Chain.IsBarren (chain : Chain) : Prop where
  cached_eq : chain.cached = none
  silent : ∀ source ∈ chain.sources, source.answer = .ok none

/-- A use of a barren chain names the ways in which credentials were looked for. -/
lemma Chain.IsBarren.use_eq (h : chain.IsBarren) (now : Int) :
    chain.use now = (.error (.auth (.noSource chain.methods)), chain.asked) := by
  have hask : (Source.ask chain.sources).1 = .ok none := by
    have hhit := Source.firstHit_ask chain.sources
    generalize (Source.ask chain.sources).1 = result, (Source.ask chain.sources).2 = asked at hhit
    cases hhit with
    | hit before first after hsources hbefore hfirst hresult =>
      rw [h.silent first (by simp [hsources])] at hfirst
      exact absurd hfirst.symm hresult
    | miss hsources => rfl
  have hfetch : chain.fetch now =
      (.error (.auth (.noSource chain.methods)), (Source.ask chain.sources).2) := by
    simp only [fetch, hask]
  simp only [use, refresh, h.cached_eq, hfetch, asked]

end Credentials

namespace Services

/-- What is stored: in the caller's own store, in the search cluster and in the table service. -/
def contents (s : Services) : Option Documents × Option Documents × Option Items :=
  (s.callerStore.map (·.contents), s.cluster.map (·.service.contents),
    s.table.map (·.service.contents))

/-- Whether an action failed in a certain way because a request was refused, with everything that is
stored left as it was. -/
structure Refused {α : Type} (refusal : Failure) (s : Services)
    (outcome : Except Failure α × Services) : Prop where
  result_eq : outcome.1 = .error refusal
  contents_eq : outcome.2.contents = s.contents
  asked : ∃ remote, outcome.2.received remote ≠ s.received remote

lemma sign_of_barren (hchain : s.chainOf? credentials = some chain) (h : chain.IsBarren)
    (region serviceName : Value) :
    sign credentials region serviceName s =
      (.error (.auth (.noSource chain.methods)), s.setChain credentials chain.asked) := by
  rw [sign_apply, lookUp_of_chain hchain, h.use_eq]
  rfl

/-- Whether all requests are refused, apart from those that end the connection. -/
def Refuses {Request : Type} (isClose : Request → Bool)
    (call : Request → Action Services Failure Value) (refusal : Failure) (s : Services) : Prop :=
  ∀ request, isClose request = false → Refused refusal s (call request s)

/-- The table service reports a credential problem as it is. -/
lemma refuses_callTable (hwired : Wired credentials region serviceName s .table)
    (hchain : s.chainOf? credentials = some chain)
    (h : chain.IsBarren) :
    Refuses TableRequest.isClose callTable (.of (.auth (.noSource chain.methods))) s := by
  intro request hopen
  have hmoves := moves_callTable hwired request
  have hreceived := hmoves.received_eq .table
  obtain ⟨table, htable, hsigned⟩ := Option.map_eq_some_iff.mp hwired
  obtain ⟨rfl, rfl⟩ := Prod.mk.inj hsigned
  have hsign : signForTable table.credentials table.region request s =
      (.error (.auth (.noSource chain.methods)), s.setChain table.credentials chain.asked) := by
    rw [signForTable_eq, hopen, if_neg Bool.false_ne_true, sign_of_barren hchain h]
    rfl
  refine ⟨?_, ?_, .table, ?_⟩
  · simp only [callTable, htable, hsign]
  · simp only [callTable, htable, hsign]
    simp [contents, htable, Service.record, setChain]
  · rw [hreceived, hopen]
    simp

/-- The search cluster reports a connection that failed, with the credential problem attached. -/
lemma refuses_callCluster (hwired : Wired credentials region serviceName s .cluster)
    (hchain : s.chainOf? credentials = some chain) (h : chain.IsBarren) :
    Refuses DocumentRequest.isClose callCluster
      (.carrying .connectionFailed (.of (.auth (.noSource chain.methods)))) s := by
  intro request hopen
  have hmoves := moves_callCluster hwired request
  have hreceived := hmoves.received_eq .cluster
  obtain ⟨cluster, hcluster, hauthentication⟩ := Option.map_eq_some_iff.mp hwired
  have hsign : signFor cluster.transport request s =
      (.error (.auth (.noSource chain.methods)), s.setChain credentials chain.asked) := by
    rw [signFor_eq hauthentication, hopen, if_neg Bool.false_ne_true, sign_of_barren hchain h]
    rfl
  refine ⟨?_, ?_, .cluster, ?_⟩
  · simp only [callCluster, hcluster, hsign]
  · simp only [callCluster, hcluster, hsign]
    simp [contents, hcluster, Service.record, setChain]
  · rw [hreceived, hopen]
    simp

/-! ### Actions -/

variable {α β : Type} {refusal : Failure} {action : Action Services Failure α}

lemma Refused.bind (h : Refused refusal s (action s)) (next : α → Action Services Failure β) :
    Refused refusal s ((action >>= next) s) := by
  obtain ⟨hresult, hcontents, hasked⟩ := h
  rw [Action.bind_apply]
  generalize action s = outcome at hresult hcontents hasked
  obtain ⟨result, after⟩ := outcome
  obtain rfl : result = .error refusal := hresult
  exact ⟨rfl, hcontents, hasked⟩

lemma Refused.answer (h : Refused refusal s (action s))
    {answer : Except Failure α → Except Failure β}
    (hanswer : answer (.error refusal) = .error refusal) :
    Refused refusal s (answer (action s).1, (action s).2) := by
  refine ⟨?_, h.contents_eq, h.asked⟩
  show answer (action s).1 = _
  rw [h.result_eq, hanswer]

lemma Refused.surfacing (h : Refused refusal s (action s)) :
    Refused refusal.surface s (Failure.surfacing action s) := by
  refine ⟨?_, h.contents_eq, h.asked⟩
  show (action s).1.mapError Failure.surface = _
  rw [h.result_eq]
  rfl

/-- Where every request would be refused, a composition either sends none or fails as the first one
does. -/
lemma Composed.unsent_or_refused {Request : Type} {isClose : Request → Bool}
    {call : Request → Action Services Failure Value} (h : Composed isClose call action)
    (hcall : Refuses isClose call refusal s)
    (hrefusal : refusal.problem ≠ .documentMissing) :
    (action s).2 = s ∨ Refused refusal s (action s) := by
  induction h with
  | request request hopen => exact .inr (hcall request hopen)
  | unchanged h => exact .inl (h s)
  | @bind _ _ action next h hnext ih ihnext =>
    -- a first part that sent nothing left the services as they were, so the rest starts from them
    rcases ih with hsame | hrefused
    · rw [Action.bind_apply]
      rcases haction : action s with ⟨failure | a, between⟩
      · rw [haction] at hsame
        exact .inl hsame
      · rw [haction] at hsame
        obtain rfl : between = s := hsame
        exact ihnext a
    · exact .inr (hrefused.bind next)
  | answer answer hfailure h ih =>
    rcases ih with hsame | hrefused
    · exact .inl hsame
    · exact .inr (hrefused.answer (hfailure refusal hrefusal))

end Services

open Services (Refused Refuses)

/-! ### Failures -/

/-- A credential problem that a failed connection carries comes to the surface. -/
lemma Failure.problem_surface_carrying (problem : AuthProblem) :
    (Failure.carrying .connectionFailed (.of (.auth problem))).surface.problem = .auth problem := by
  generalize hfailure : Failure.carrying .connectionFailed (.of (.auth problem)) = failure
  have hproblem : failure.problem = .connectionFailed := by rw [← hfailure]; rfl
  have hfind : failure.graph.findAuth (some failure.start) = some 0 := by
    rw [FailureGraph.findAuth, Option.bind_some, FailureGraph.findAuthFrom, ← hfailure]
    rfl
  rw [surface, hproblem, if_neg (by decide), hfind, ← hfailure]
  rfl

/-- A credential problem of the table service stays what it is. -/
lemma Item.refuses_call (hwired : Wired credentials region serviceName s .table)
    (hchain : s.chainOf? credentials = some chain)
    (h : chain.IsBarren) :
    Refuses TableRequest.isClose Item.call (.of (.auth (.noSource chain.methods))) s :=
  fun request hopen => (Services.refuses_callTable hwired hchain h request hopen).surfacing

/-! ### Commands that can be sent -/

namespace Target

variable {refusal : Failure} {field index id document tenant body : Value}

lemma reach_bind_of_there {target : Target} {α : Type} (h : target.isThere s = true)
    (next : Unit → Action Services Failure α) : (target.reach >>= next) s = next () s :=
  Action.bind_of_ok (by rw [reach, h, if_pos rfl]) next

lemma put_refused (hthere : cluster.isThere s = true)
    (hcall : Refuses DocumentRequest.isClose Services.callCluster refusal s)
    {stamped : Mapping} (hstamp : Tenancy.stamp document field tenant = .ok stamped) :
    Refused refusal s (cluster.put field index id document tenant s) := by
  rw [put, reach_bind_of_there hthere, Services.lift_bind_of_ok hstamp]
  exact hcall (.put index id stamped) rfl

lemma search_refused (hthere : cluster.isThere s = true)
    (hcall : Refuses DocumentRequest.isClose Services.callCluster refusal s)
    {narrowed : Mapping} (hscope : Tenancy.scope body field tenant = .ok narrowed) :
    Refused refusal s (cluster.search field index body tenant s) := by
  rw [search, reach_bind_of_there hthere, Services.lift_bind_of_ok hscope]
  exact hcall (.search index narrowed) rfl

lemma bulk_refused (hthere : cluster.isThere s = true)
    (hcall : Refuses DocumentRequest.isClose Services.callCluster refusal s)
    {documents first : Value} {rest : List Value} {lines : List BulkLine}
    (helements : documents.elements = .ok (first :: rest))
    (hlines : (first :: rest).mapM (lineOf field index tenant) = .ok lines) :
    Refused refusal s (cluster.bulk field index documents tenant s) := by
  rw [bulk, Services.lift_bind_of_ok helements, Services.lift_bind_of_ok hlines]
  rw [List.mapM_cons] at hlines
  obtain ⟨line, -, hmore⟩ := except_bind_eq_ok.mp hlines
  obtain ⟨more, -, hpure⟩ := except_bind_eq_ok.mp hmore
  obtain rfl : line :: more = lines := Except.ok.inj hpure
  rw [List.isEmpty_cons, if_neg Bool.false_ne_true, reach_bind_of_there hthere]
  exact hcall (.bulk (line :: more)) rfl

lemma get_refused
    (hcall : Refuses DocumentRequest.isClose Services.callCluster refusal s)
    (hrefusal : refusal.problem ≠ .documentMissing) :
    Refused refusal s (cluster.get field index id tenant s) := by
  rw [get_eq]
  exact (hcall (.get index id) rfl).answer (by rw [gotten, if_neg hrefusal])

end Target

lemma Tenancy.exists_scope {field body : Value} (hkey : field.isKey = true)
    (hbody : body = .null ∨ ∃ entries, body = .map entries) (tenant : Value) :
    ∃ narrowed, scope body field tenant = .ok narrowed := by
  obtain ⟨entries, hentries⟩ : ∃ entries, (body.orElse (.map [])).toMapping = .ok entries := by
    rcases hbody with rfl | ⟨entries, rfl⟩
    · exact ⟨[], rfl⟩
    · rw [Value.orElse]
      split
      · exact ⟨entries, rfl⟩
      · exact ⟨[], rfl⟩
  rw [scope, hentries]
  show ∃ narrowed, (if applies field tenant then _ else _) = _
  split
  · have hterm : Value.singleton field tenant = .ok (.map [(field, tenant)]) := by
      rw [Value.singleton, if_pos hkey]
    simp only [Tenancy.narrowed, hterm]
    exact ⟨_, rfl⟩
  · exact ⟨entries, rfl⟩

namespace Item

variable {refusal : Failure} {field table id document tenant : Value}

lemma exists_key (hkey : field.isKey = true) (id tenant : Value) :
    ∃ key, Item.key field id tenant = .ok key := by
  have hhash : (hashKey field).isKey = true := by
    rw [hashKey, Value.orElse]
    split
    · exact hkey
    · rfl
  rw [key, Value.setEntry, if_pos hhash]
  exact ⟨_, rfl⟩

lemma exists_ofDocument (hkey : field.isKey = true) (hplain : document.Plain) (id tenant : Value) :
    ∃ item, ofDocument field id document tenant = .ok item := by
  obtain ⟨key, hkey⟩ := exists_key hkey id tenant
  obtain ⟨source, hencode, -⟩ := Json.decode_canonical hplain
  rw [ofDocument, hkey, hencode]
  exact ⟨_, rfl⟩

lemma put_refused
    (hcall : Refuses TableRequest.isClose call refusal s)
    {item : Mapping} (hitem : ofDocument field id document tenant = .ok item) :
    Refused refusal s (put field table id document tenant s) := by
  rw [put, Services.lift_bind_of_ok hitem]
  exact hcall (.putItem table item) rfl

lemma get_refused
    (hcall : Refuses TableRequest.isClose call refusal s)
    {key : Mapping} (hkey : Item.key field id tenant = .ok key) :
    Refused refusal s (get field table id tenant s) := by
  rw [get, Services.lift_bind_of_ok hkey]
  exact (hcall (.getItem table key) rfl).bind _

lemma bulk_refused
    (hcall : Refuses TableRequest.isClose call refusal s)
    {documents first : Value} {rest : List Value} {item : Mapping}
    (helements : documents.elements = .ok (first :: rest)) (hpair : first.pair = .ok (id, document))
    (hitem : ofDocument field id document tenant = .ok item) :
    Refused refusal s (bulk field table documents tenant s) := by
  rw [bulk, Services.lift_bind_of_ok helements, putAll, Services.lift_bind_of_ok hpair]
  exact ((put_refused hcall hitem).bind _).bind _

end Item

namespace Client

variable {client : Client}

/-- Whether a command failed for want of credentials, with everything that is stored left as it
was. -/
def LacksCredentials (chain : Credentials.Chain) (s : Services)
    (outcome : Except Failure Value × Services) : Prop :=
  ∃ refusal, refusal.problem = .auth (.noSource chain.methods) ∧ Refused refusal s outcome

/-- A command either sends no request, and changes nothing, or fails for want of credentials. -/
lemma Command.unsent_or_lacks (hwired : client.IsWired credentials region serviceName s)
    (hchain : s.chainOf? credentials = some chain) (h : chain.IsBarren) {command : Command}
    (hopen : command ≠ .close) :
    command.perform client s = s ∨ LacksCredentials chain s (command.run client s) := by
  have hremote := hwired.wired command
  cases carriesOut hwired hopen with
  | onCluster action hcluster hrun hcomposed =>
    rw [hcluster] at hremote
    have hcases := hcomposed.unsent_or_refused (Services.refuses_callCluster hremote hchain h)
      (by simp [Failure.problem, Failure.carrying])
    rw [perform, hrun]
    refine hcases.imp id fun hrefused => ?_
    exact ⟨_, Failure.problem_surface_carrying _, hrefused.surfacing⟩
  | onTable htable hcomposed =>
    rw [htable] at hremote
    have hcases := hcomposed.unsent_or_refused (Item.refuses_call hremote hchain h)
      Problem.noConfusion
    exact hcases.imp id fun hrefused => ⟨_, rfl, hrefused⟩

/-- Whether a command can be sent: documents are plain mappings, a list of them consists of
identifiers with documents, and a search has a mapping for a body or none. -/
def Command.IsSendable : Command → Prop
  | operate operation => operation.Within (fun _ => True)
      (fun document => (∃ entries, document = .map entries) ∧ document.Plain) fun _ => True
  | search _ body _ => body = .null ∨ ∃ entries, body = .map entries
  | close => True

lemma refused_operate {backend : ClusterBackend} {refusal : Failure}
    (hfield : backend.tenantField.isKey = true) (hthere : Target.cluster.isThere s = true)
    (hcall : Refuses DocumentRequest.isClose Services.callCluster refusal s)
    (hrefusal : refusal.problem ≠ .documentMissing) {operation : Operation}
    (hdocuments : (Command.operate operation).IsForDocuments)
    (hsendable : (Command.operate operation).IsSendable) (multiTenancy : Bool) :
    Refused refusal.surface s (operation.run ⟨.cluster backend, multiTenancy⟩ s) := by
  cases operation with
  | put write =>
    obtain ⟨-, ⟨⟨entries, hentries⟩, -⟩, -⟩ := hsendable
    obtain ⟨stamped, hstamped⟩ := Tenancy.exists_stamp hfield entries _
    exact (Target.put_refused hthere hcall (hentries ▸ hstamped)).surfacing
  | bulk index documents tenant =>
    obtain ⟨first, rest, helements⟩ := hdocuments
    obtain ⟨⟨elements, helements', hpairs⟩, -⟩ := hsendable
    obtain rfl : first :: rest = elements := Except.ok.inj (helements.symm.trans helements')
    have hstamps (tenant : Value) : ∀ element ∈ first :: rest, ∃ id document,
        element.pair = .ok (id, document) ∧
          ∃ entries, Tenancy.stamp document backend.tenantField tenant = .ok entries := by
      intro element helement
      obtain ⟨id, document, hpair, -, ⟨entries, rfl⟩, -⟩ := hpairs element helement
      exact ⟨id, _, hpair, Tenancy.exists_stamp hfield entries tenant⟩
    obtain ⟨lines, hlines⟩ := Target.exists_lines (hstamps _) index
    exact (Target.bulk_refused hthere hcall helements hlines).surfacing
  | get index id tenant => exact (Target.get_refused hcall hrefusal).surfacing

lemma refused_operate_table {own field : Value} {search : ClusterBackend} {refusal : Failure}
    (hfield : field.isKey = true) (hcall : Refuses TableRequest.isClose Item.call refusal s)
    {operation : Operation} (hdocuments : (Command.operate operation).IsForDocuments)
    (hsendable : (Command.operate operation).IsSendable) (multiTenancy : Bool) :
    Refused refusal s (operation.run ⟨.table own search field, multiTenancy⟩ s) := by
  cases operation with
  | put write =>
    obtain ⟨-, ⟨-, hplain⟩, -⟩ := hsendable
    obtain ⟨item, hitem⟩ := Item.exists_ofDocument hfield hplain write.id _
    exact Item.put_refused hcall hitem
  | bulk index documents tenant =>
    obtain ⟨first, rest, helements⟩ := hdocuments
    obtain ⟨⟨elements, helements', hpairs⟩, -⟩ := hsendable
    obtain rfl : first :: rest = elements := Except.ok.inj (helements.symm.trans helements')
    obtain ⟨id, document, hpair, -, -, hplain⟩ := hpairs first List.mem_cons_self
    obtain ⟨item, hitem⟩ := Item.exists_ofDocument hfield hplain id _
    exact Item.bulk_refused hcall helements hpair hitem
  | get index id tenant =>
    obtain ⟨key, hkey⟩ := Item.exists_key hfield id _
    exact Item.get_refused hcall hkey

lemma isThere_of_wired (h : Wired credentials region serviceName s .cluster) :
    Target.cluster.isThere s = true := by
  obtain ⟨cluster, hcluster, -⟩ := Option.map_eq_some_iff.mp h
  rw [Target.isThere, hcluster, Option.isSome_some]

/-- A command for documents that can be sent fails for want of credentials. -/
lemma Command.lacks_of_sendable (hwired : client.IsWired credentials region serviceName s)
    (hchain : s.chainOf? credentials = some chain) (h : chain.IsBarren) {field : Value}
    (huses : client.UsesField field) (hfield : field.isKey = true) {command : Command}
    (hdocuments : command.IsForDocuments) (hsendable : command.IsSendable) :
    LacksCredentials chain s (command.run client s) := by
  have hsearch {backend : ClusterBackend} (hbackend : backend.tenantField = field)
      (hcluster : Wired credentials region serviceName s .cluster) {body : Value}
      (hbody : body = .null ∨ ∃ entries, body = .map entries) (index tenant : Value) :
      LacksCredentials chain s (Failure.surfacing
        (Target.cluster.search backend.tenantField index body tenant) s) := by
    obtain ⟨narrowed, hscope⟩ := Tenancy.exists_scope (hbackend ▸ hfield) hbody tenant
    exact ⟨_, Failure.problem_surface_carrying _, (Target.search_refused
      (isThere_of_wired hcluster) (Services.refuses_callCluster hcluster hchain h)
      hscope).surfacing⟩
  obtain ⟨delegate, multiTenancy⟩ := client
  cases delegate with
  | callerStore registry own => cases hwired
  | cluster backend =>
    obtain rfl : backend.tenantField = field := huses
    cases command with
    | operate operation =>
      refine ⟨_, Failure.problem_surface_carrying _, refused_operate hfield
        (isThere_of_wired hwired) (Services.refuses_callCluster hwired hchain h) ?_ hdocuments
        hsendable multiTenancy⟩
      exact Problem.noConfusion
    | search index body tenant => exact hsearch rfl hwired hsendable index _
    | close => cases hdocuments
  | table own search tableField =>
    obtain ⟨rfl, hsame⟩ := huses
    cases command with
    | operate operation =>
      exact ⟨_, rfl, refused_operate_table hfield (Item.refuses_call hwired.1 hchain h) hdocuments
        hsendable multiTenancy⟩
    | search index body tenant => exact hsearch hsame hwired.2 hsendable index _
    | close => cases hdocuments

end Client
end Metastore
