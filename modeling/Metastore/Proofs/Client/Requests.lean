import Metastore.Proofs.Client.Commands
import Metastore.Proofs.Client.Refusals
import Metastore.Proofs.Client.Table

/-!
# The requests of commands

On a document store, a command leads to one request, or to none if what it is given cannot be sent.
On a table, a list of documents leads to one request after another. `Client.requests` says which
requests these are; a command leaves the services as they leave them (`Client.perform_eq_sendAll`).
-/

namespace Metastore

/-! ### Requests in turn -/

namespace Services

/-- Sends requests one after another, up to the first that fails. -/
def sendAll {Sent : Type} (call : Sent → Action Services Failure Value) :
    List Sent → Action Services Failure Unit
  | [] => return ()
  | request :: rest => do
    let _ ← call request
    sendAll call rest

/-- Whether an action leaves the services as the requests that it sends leave them, and answers a
failure of one of them in a certain way. -/
structure Follows {α : Type} (answer : Failure → Except Failure α)
    (sent : Except Failure Unit × Services) (outcome : Except Failure α × Services) : Prop where
  services_eq : outcome.2 = sent.2
  result_eq : ∀ failure, sent.1 = .error failure → outcome.1 = answer failure

variable {Sent Wrapped α β : Type} {call : Sent → Action Services Failure Value}
  {s after : Services} {failure : Failure} {request : Sent}

lemma sendAll_cons_of_error (h : call request s = (.error failure, after)) (rest : List Sent) :
    sendAll call (request :: rest) s = (.error failure, after) :=
  Action.bind_of_error h _

lemma sendAll_cons_of_ok {reply : Value} (h : call request s = (.ok reply, after))
    (rest : List Sent) : sendAll call (request :: rest) s = sendAll call rest after :=
  Action.bind_of_ok h _

lemma sendAll_map (wrap : Wrapped → Sent) (requests : List Wrapped) :
    sendAll call (requests.map wrap) = sendAll (fun request => call (wrap request)) requests := by
  induction requests with
  | nil => rfl
  | cons request rest ih => simp [sendAll, ih]

lemma Follows.unsent {answer : Failure → Except Failure α} {outcome : Except Failure α × Services}
    (h : outcome.2 = s) : Follows answer (.ok (), s) outcome := by
  refine ⟨h, ?_⟩
  rintro failure ⟨⟩

lemma follows_single (answer : Except Failure Value → Except Failure α) (request : Sent)
    (s : Services) :
    Follows (fun failure => answer (.error failure)) (sendAll call [request] s)
      (answer (call request s).1, (call request s).2) := by
  rcases h : call request s with ⟨failure | reply, after⟩
  · rw [sendAll_cons_of_error h]
    refine ⟨rfl, ?_⟩
    rintro failure' ⟨⟩
    rfl
  · rw [sendAll_cons_of_ok h]
    refine ⟨rfl, ?_⟩
    rintro failure ⟨⟩

lemma Follows.surfacing {answer : Failure → Except Failure α}
    {sent : Except Failure Unit × Services} {action : Action Services Failure α}
    (h : Follows answer sent (action s)) :
    Follows (fun failure => (answer failure).mapError Failure.surface) sent
      (Failure.surfacing action s) := by
  refine ⟨h.services_eq, ?_⟩
  intro failure hfailure
  show (action s).1.mapError Failure.surface = _
  rw [h.result_eq failure hfailure]

lemma Follows.map {answer : Failure → Failure} {sent : Except Failure Unit × Services}
    {action : Action Services Failure α}
    (h : Follows (fun failure => .error (answer failure)) sent (action s)) (f : α → β) :
    Follows (fun failure => .error (answer failure)) sent ((f <$> action) s) := by
  rw [Action.map_apply]
  refine ⟨h.services_eq, ?_⟩
  intro failure hfailure
  show (action s).1.map f = _
  rw [h.result_eq failure hfailure]
  rfl

end Services

open Services (sendAll Follows)

variable {client : Client} {target : Target} {field : Value}

/-! ### Document stores -/

namespace Target

/-- Carries out a command on a document store. -/
def run (target : Target) (field : Value) (client : Client) :
    Client.Command → Action Services Failure Value
  | .operate (.put write) =>
    target.put field write.index write.id write.document (client.tenant write.tenant)
  | .operate (.bulk index documents tenant) =>
    target.bulk field index documents (client.tenant tenant)
  | .operate (.get index id tenant) => target.get field index id (client.tenant tenant)
  | .search index body tenant => target.search field index body (client.tenant tenant)
  | .close => return .null

end Target

namespace Client

/-- The request that a command leads to on a document store. An empty list leads to none, and so
does what cannot be sent. -/
def documentRequest? (client : Client) (field : Value) : Command → Option DocumentRequest
  | .operate (.put write) =>
    (Tenancy.stamp write.document field (client.tenant write.tenant)).toOption.map
      (.put write.index write.id)
  | .operate (.bulk index documents tenant) =>
    match documents.elements >>= List.mapM (Target.lineOf field index (client.tenant tenant)) with
    | .ok (line :: rest) => some (.bulk (line :: rest))
    | _ => none
  | .operate (.get index id _) => some (.get index id)
  | .search index body tenant =>
    (Tenancy.scope body field (client.tenant tenant)).toOption.map (.search index)
  | .close => none

/-- What a command makes of the reply of a document store. -/
def Command.answerTo (client : Client) (field : Value) :
    Command → Except Failure Value → Except Failure Value
  | .operate (.get _ _ tenant), reply => Target.gotten field (client.tenant tenant) reply
  | _, reply => reply

end Client

lemma toOption_map_eq_some {ε α β : Type} {x : Except ε α} {f : α → β} {b : β}
    (h : x.toOption.map f = some b) : ∃ a, x = .ok a ∧ f a = b := by
  cases x with
  | error e => cases h
  | ok a => exact ⟨a, rfl, Option.some.inj h⟩

namespace Target

/-- Nothing gets to a store that is not there, whether one looks first or not. -/
lemma reach_bind_call (target : Target) (request : DocumentRequest) (s : Services) :
    (target.reach >>= fun _ => target.call request) s = target.call request s := by
  cases hthere : target.isThere s with
  | true => exact reach_bind_of_there hthere _
  | false =>
    have hreach : target.reach s = (.error (.of .notAMapping), s) := by
      rw [reach, hthere, if_neg Bool.false_ne_true]
    rw [Action.bind_of_error hreach]
    cases target with
    | callerStore =>
      have hnone : s.callerStore = none := by simpa [isThere] using hthere
      rw [call, Services.callStore, hnone]
    | cluster =>
      have hnone : s.cluster = none := by simpa [isThere] using hthere
      rw [call, Services.callCluster, hnone]

lemma reach_bind_error (target : Target) (problem : Problem)
    (next : Mapping → Action Services Failure Value) (s : Services) :
    ((target.reach >>= fun _ => Services.lift (.error problem) >>= next) s).2 = s := by
  rw [Action.bind_apply, reach]
  cases target.isThere s <;> rfl

/-- A command that leads to a request is the request, and what is made of the reply. -/
lemma run_of_request {command : Client.Command} {request : DocumentRequest}
    (h : client.documentRequest? field command = some request) (s : Services) :
    target.run field client command s =
      (command.answerTo client field (target.call request s).1, (target.call request s).2) := by
  cases command with
  | operate operation =>
    cases operation with
    | put write =>
      obtain ⟨stamped, hstamp, rfl⟩ := toOption_map_eq_some h
      rw [run, put, hstamp]
      exact reach_bind_call target _ s
    | bulk index documents tenant =>
      rw [Client.documentRequest?] at h
      split at h
      · next line rest hlines =>
        obtain rfl := Option.some.inj h
        obtain ⟨elements, helements, hlines⟩ := except_bind_eq_ok.mp hlines
        rw [run, bulk, Services.lift_bind_of_ok helements, Services.lift_bind_of_ok hlines,
          List.isEmpty_cons, if_neg Bool.false_ne_true]
        exact reach_bind_call target _ s
      · cases h
    | get index id tenant =>
      obtain rfl := Option.some.inj h
      rw [run, get_eq]
      rfl
  | search index body tenant =>
    obtain ⟨narrowed, hscope, rfl⟩ := toOption_map_eq_some h
    rw [run, search, hscope]
    exact reach_bind_call target _ s
  | close => cases h

/-- A command that leads to no request leaves the services alone. -/
lemma run_of_no_request {command : Client.Command}
    (h : client.documentRequest? field command = none) (s : Services) :
    (target.run field client command s).2 = s := by
  cases command with
  | operate operation =>
    cases operation with
    | put write =>
      rw [Client.documentRequest?, Option.map_eq_none_iff] at h
      cases hstamp : Tenancy.stamp write.document field (client.tenant write.tenant) with
      | ok stamped =>
        rw [hstamp] at h
        cases h
      | error problem =>
        rw [run, put, hstamp]
        exact reach_bind_error target problem _ s
    | bulk index documents tenant =>
      rw [Client.documentRequest?] at h
      cases helements : documents.elements with
      | error problem => rw [run, bulk, Services.lift_bind_of_error helements]
      | ok elements =>
        rw [run, bulk, Services.lift_bind_of_ok helements]
        cases hlines : elements.mapM (lineOf field index (client.tenant tenant)) with
        | error problem => rw [Services.lift_bind_of_error rfl]
        | ok lines =>
          have hboth : documents.elements >>=
              List.mapM (lineOf field index (client.tenant tenant)) = .ok lines :=
            except_bind_eq_ok.mpr ⟨elements, helements, hlines⟩
          rw [hboth] at h
          cases lines with
          | nil => rfl
          | cons line rest => cases h
    | get index id tenant => cases h
  | search index body tenant =>
    rw [Client.documentRequest?, Option.map_eq_none_iff] at h
    cases hscope : Tenancy.scope body field (client.tenant tenant) with
    | ok narrowed =>
      rw [hscope] at h
      cases h
    | error problem =>
      rw [run, search, hscope]
      exact reach_bind_error target problem _ s
  | close => rfl

lemma run_follows (target : Target) (field : Value) (client : Client) (command : Client.Command)
    (s : Services) : Follows (fun failure => command.answerTo client field (.error failure))
      (sendAll target.call (client.documentRequest? field command).toList s)
      (target.run field client command s) := by
  cases hrequest : client.documentRequest? field command with
  | none =>
    exact .unsent (run_of_no_request hrequest s)
  | some request =>
    rw [run_of_request hrequest]
    exact Services.follows_single (command.answerTo client field) request s

end Target

/-! ### Tables -/

namespace Item

variable {request : TableRequest} {s after : Services}

lemma call_of_error {failure : Failure}
    (h : Services.callTable request s = (.error failure, after)) :
    call request s = (.error failure.surface, after) := by
  rw [call, Failure.surfacing, h]
  rfl

lemma call_of_ok {reply : Value} (h : Services.callTable request s = (.ok reply, after)) :
    call request s = (.ok reply, after) := by
  rw [call, Failure.surfacing, h]
  rfl

end Item

namespace Client

variable {region : Value} {search : ClusterBackend}

/-- The requests for writes to a table, up to the first write for which there is no item. -/
def itemPuts (client : Client) : List Write → List TableRequest
  | [] => []
  | write :: rest =>
    match client.itemOf write with
    | .ok item => .putItem write.index item :: client.itemPuts rest
    | .error _ => []

/-- The requests that an operation leads to on a table. -/
def itemRequests (client : Client) : Operation → List TableRequest
  | .put write => client.itemPuts [write]
  | .bulk index documents tenant =>
    client.itemPuts (listed index tenant (documents.elements.toOption.getD []))
  | .get index id tenant =>
    ((Item.key client.tenantField id (client.tenant tenant)).toOption.map (.getItem index)).toList

lemma tenantField_of_table (hdelegate : client.delegate = .table region search field) :
    client.tenantField = field := by
  rw [Client.tenantField, hdelegate]
  rfl

lemma put_of_item (hdelegate : client.delegate = .table region search field) {write : Write}
    {item : Mapping} (hitem : client.itemOf write = .ok item) :
    client.put write.index write.id write.document write.tenant =
      Item.call (.putItem write.index item) := by
  have hof : Item.ofDocument field write.id write.document (client.tenant write.tenant) =
      .ok item := by
    rw [← hitem, itemOf, tenantField_of_table hdelegate]
  rw [put_of_table hdelegate, Item.put, Services.lift_bind_of_ok hof]
  rfl

lemma put_of_item_error (hdelegate : client.delegate = .table region search field) {write : Write}
    {problem : Problem} (hitem : client.itemOf write = .error problem) (s : Services) :
    client.put write.index write.id write.document write.tenant s = (.error (.of problem), s) := by
  rw [itemOf, tenantField_of_table hdelegate] at hitem
  rw [put_of_table hdelegate, Item.put, Services.lift_bind_of_error hitem]

lemma put_follows (hdelegate : client.delegate = .table region search field) (write : Write)
    (s : Services) :
    Follows (fun failure => .error failure.surface)
      (sendAll Services.callTable (client.itemPuts [write]) s)
      (client.put write.index write.id write.document write.tenant s) := by
  rw [itemPuts, itemPuts]
  cases hitem : client.itemOf write with
  | error problem =>
    rw [put_of_item_error hdelegate hitem]
    exact .unsent rfl
  | ok item =>
    rw [put_of_item hdelegate hitem]
    exact Services.follows_single (Except.mapError Failure.surface)
      (TableRequest.putItem write.index item) s

lemma putAll_follows (hdelegate : client.delegate = .table region search field)
    (index tenant : Value) (elements : List Value) (s : Services) :
    Follows (fun failure => .error failure.surface)
      (sendAll Services.callTable (client.itemPuts (listed index tenant elements)) s)
      (Item.putAll field index (client.tenant tenant) elements s) := by
  induction elements generalizing s with
  | nil => exact .unsent rfl
  | cons element rest ih =>
    cases hpair : element.pair with
    | error problem =>
      rw [listed, hpair, Item.putAll_cons_of_error hpair]
      exact .unsent rfl
    | ok parts =>
      obtain ⟨id, document⟩ := parts
      rw [listed, hpair, itemPuts, Item.putAll_cons hpair, ← put_of_table hdelegate]
      cases hitem : client.itemOf ⟨index, id, document, tenant⟩ with
      | error problem =>
        rw [Action.bind_of_error (put_of_item_error hdelegate hitem s)]
        exact .unsent rfl
      | ok item =>
        rw [put_of_item hdelegate hitem]
        rcases hcall : Services.callTable (.putItem index item) s with ⟨failure | reply, between⟩
        · rw [Action.bind_of_error (Item.call_of_error hcall),
            Services.sendAll_cons_of_error hcall]
          refine ⟨rfl, ?_⟩
          rintro failure' ⟨⟩
          rfl
        · rw [Action.bind_of_ok (Item.call_of_ok hcall), Services.sendAll_cons_of_ok hcall]
          exact (ih between).map _

/-- An operation on a table leaves the services as its requests leave them, and fails with what
comes to the surface where one of these fails. -/
lemma operate_follows (hdelegate : client.delegate = .table region search field)
    (operation : Operation) (s : Services) :
    Follows (fun failure => .error failure.surface)
      (sendAll Services.callTable (client.itemRequests operation) s) (operation.run client s) := by
  cases operation with
  | put write => exact put_follows hdelegate write s
  | bulk index documents tenant =>
    rw [Operation.run, bulk_of_table hdelegate, itemRequests]
    cases helements : documents.elements with
    | error problem =>
      rw [Item.bulk_of_error helements]
      exact .unsent rfl
    | ok elements =>
      rw [Item.bulk_of_elements helements]
      exact (putAll_follows hdelegate index tenant elements s).map _
  | get index id tenant =>
    rw [Operation.run, get_of_table hdelegate, itemRequests, tenantField_of_table hdelegate]
    cases hkey : Item.key field id (client.tenant tenant) with
    | error problem =>
      rw [Item.get_of_error hkey]
      exact .unsent rfl
    | ok key =>
      have hget : Item.get field index id (client.tenant tenant) s =
          (((Services.callTable (.getItem index key) s).1.mapError Failure.surface).bind
              fun reply => (Item.documentOf reply).mapError .of,
            (Services.callTable (.getItem index key) s).2) := by
        rw [Item.get, Services.lift_bind_of_ok hkey, Action.bind_apply, Failure.surfacing]
        rcases Services.callTable (.getItem index key) s with ⟨failure | reply, after⟩ <;> rfl
      rw [hget]
      exact Services.follows_single (fun reply => (reply.mapError Failure.surface).bind
        fun reply => (Item.documentOf reply).mapError .of) (TableRequest.getItem index key) s

/-! ### Clients -/

/-- A request to one of the services behind a client. -/
inductive Request where
  | document (target : Target) (request : DocumentRequest)
  | item (request : TableRequest)

/-- Sends a request. What the service makes of it is passed on as it is. -/
def Request.send : Request → Action Services Failure Value
  | document target request => target.call request
  | item request => Services.callTable request

/-- The requests that a command leads to, one after another. -/
def requests (client : Client) (command : Command) : List Request :=
  match client.delegate with
  | .callerStore _ field =>
    (client.documentRequest? field command).toList.map (.document .callerStore)
  | .cluster backend =>
    (client.documentRequest? backend.tenantField command).toList.map (.document .cluster)
  | .table _ search _ =>
    match command with
    | .search index body tenant =>
      (client.documentRequest? search.tenantField (.search index body tenant)).toList.map
        (.document .cluster)
    | .operate operation => (client.itemRequests operation).map .item
    | .close => []

/-- What a client makes of a failure of a request. -/
def answerFailure (client : Client) (command : Command) (failure : Failure) :
    Except Failure Value :=
  match client.delegate with
  | .callerStore _ field => command.answerTo client field (.error failure)
  | .cluster backend =>
    (command.answerTo client backend.tenantField (.error failure)).mapError Failure.surface
  | .table .. => .error failure.surface

variable {command : Command} {registry : Value} {backend : ClusterBackend}

lemma run_of_callerStore (hdelegate : client.delegate = .callerStore registry field)
    (hopen : command ≠ .close) :
    command.run client = Target.callerStore.run field client command := by
  obtain ⟨_, multiTenancy⟩ := client
  obtain rfl := hdelegate
  cases command with
  | operate operation => cases operation <;> rfl
  | search index body tenant => rfl
  | close => exact absurd rfl hopen

lemma run_of_cluster (hdelegate : client.delegate = .cluster backend) (hopen : command ≠ .close) :
    command.run client =
      Failure.surfacing (Target.cluster.run backend.tenantField client command) := by
  obtain ⟨_, multiTenancy⟩ := client
  obtain rfl := hdelegate
  cases command with
  | operate operation => cases operation <;> rfl
  | search index body tenant => rfl
  | close => exact absurd rfl hopen

/-- A search of a table is one of its search cluster. -/
lemma search_of_table (hdelegate : client.delegate = .table region backend field)
    (index body tenant : Value) :
    client.search index body tenant =
      Failure.surfacing
        (Target.cluster.run backend.tenantField client (.search index body tenant)) := by
  rw [Client.search, hdelegate]
  rfl

/-- Apart from closing, a command leaves the services as its requests leave them. -/
lemma run_follows (client : Client) (hopen : command ≠ .close) (s : Services) :
    Follows (client.answerFailure command) (sendAll Request.send (client.requests command) s)
      (command.run client s) := by
  rw [funext fun failure => answerFailure.eq_1 client command failure]
  cases hdelegate : client.delegate with
  | callerStore registry field =>
    simp only [requests, hdelegate, Services.sendAll_map]
    rw [run_of_callerStore hdelegate hopen]
    exact Target.callerStore.run_follows field client command s
  | cluster backend =>
    simp only [requests, hdelegate, Services.sendAll_map]
    rw [run_of_cluster hdelegate hopen]
    exact (Target.cluster.run_follows backend.tenantField client command s).surfacing
  | table region search field =>
    cases command with
    | operate operation =>
      simp only [requests, hdelegate, Services.sendAll_map]
      exact operate_follows hdelegate operation s
    | search index body tenant =>
      simp only [requests, hdelegate, Services.sendAll_map]
      rw [Command.run, search_of_table hdelegate]
      exact (Target.cluster.run_follows search.tenantField client
        (.search index body tenant) s).surfacing
    | close => exact absurd rfl hopen

/-- Closing leads to no request for documents. -/
lemma requests_close (client : Client) : client.requests .close = [] := by
  rw [requests]
  cases client.delegate <;> rfl

end Client
end Metastore
