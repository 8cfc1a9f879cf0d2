import Metastore.Proofs.Client.History
import Metastore.Proofs.Services.Reaction
import Metastore.Proofs.Services.Traffic

/-!
# Commands

Everything that a client can be told to do: the operations on documents, searching, and closing.
Apart from closing, what a client of remote services does is composed of requests to one service and
of steps that touch no service (`Services.Composed`). What holds of every request and is kept by such
a composition holds of every command.
-/

namespace Metastore

open Services (Sending Moves Traffic Wired)

variable {credentials : Credentials.Deferred} {region serviceName : Value} {s after : Services}
  {sent : List Sent}

namespace Services

/-! ### Compositions -/

/-- The actions that are composed of requests, none of which ends the connection. A failure may be
taken for a result only where it says that a document is missing. -/
inductive Composed {Request : Type} (isClose : Request → Bool)
    (call : Request → Action Services Failure Value) :
    {α : Type} → Action Services Failure α → Prop where
  | request (request : Request) (hopen : isClose request = false) :
      Composed isClose call (call request)
  | unchanged {α : Type} {action : Action Services Failure α} (h : ∀ s, (action s).2 = s) :
      Composed isClose call action
  | bind {α β : Type} {action : Action Services Failure α} {next : α → Action Services Failure β}
      (h : Composed isClose call action) (hnext : ∀ a, Composed isClose call (next a)) :
      Composed isClose call (action >>= next)
  | answer {α β : Type} {action : Action Services Failure α}
      (answer : Except Failure α → Except Failure β)
      (hfailure : ∀ failure, failure.problem ≠ .documentMissing →
        answer (.error failure) = .error failure)
      (h : Composed isClose call action) :
      Composed isClose call fun s => (answer (action s).1, (action s).2)

variable {Request α : Type} {isClose : Request → Bool}
  {call : Request → Action Services Failure Value} {remote : Remote}
  {action : Action Services Failure α}

/-- A composition of requests to one service sends requests to no other. -/
lemma Composed.sending (h : Composed isClose call action)
    (hcall : ∀ request, Sending remote credentials region serviceName (call request)) :
    Sending remote credentials region serviceName action := by
  induction h with
  | request request hopen => exact hcall request
  | unchanged h => exact .of_unchanged h
  | bind h hnext ih ihnext => exact ih.bind ihnext
  | answer answer hfailure h ih => exact ih

/-- A list without elements leads to nothing that the empty list does not lead to. -/
lemma lift_elements_unchanged {documents : Value}
    (h : ∀ first rest, documents.elements ≠ .ok (first :: rest))
    {next : List Value → Action Services Failure α} (hnext : (next [] s).2 = s) :
    ((lift documents.elements >>= next) s).2 = s := by
  cases helements : documents.elements with
  | error problem => rw [lift_bind_of_error rfl]
  | ok elements =>
    rw [lift_bind_of_ok rfl]
    cases elements with
    | nil => exact hnext
    | cons first rest => exact absurd helements (h first rest)

end Services

open Services (Composed)

namespace Target

/-- The actions that are composed of requests to a document store. -/
abbrev ComposedOfCalls (target : Target) {α : Type} (action : Action Services Failure α) : Prop :=
  Composed DocumentRequest.isClose target.call action

lemma composed_put (target : Target) (field index id document tenant : Value) :
    target.ComposedOfCalls (target.put field index id document tenant) := by
  apply Composed.bind (.unchanged fun _ => rfl)
  intro _
  apply Composed.bind (.unchanged fun _ => rfl)
  intro stamped
  exact .request (DocumentRequest.put index id stamped) rfl

lemma composed_search (target : Target) (field index body tenant : Value) :
    target.ComposedOfCalls (target.search field index body tenant) := by
  apply Composed.bind (.unchanged fun _ => rfl)
  intro _
  apply Composed.bind (.unchanged fun _ => rfl)
  intro narrowed
  exact .request (DocumentRequest.search index narrowed) rfl

lemma composed_bulk (target : Target) (field index documents tenant : Value) :
    target.ComposedOfCalls (target.bulk field index documents tenant) := by
  apply Composed.bind (.unchanged fun _ => rfl)
  intro elements
  apply Composed.bind (.unchanged fun _ => rfl)
  intro lines
  split
  · exact .unchanged fun _ => rfl
  · apply Composed.bind (.unchanged fun _ => rfl)
    intro _
    exact .request (DocumentRequest.bulk lines) rfl

/-- What is given where a document was asked for. -/
def gotten (field tenant : Value) : Except Failure Value → Except Failure Value
  | .ok reply => (documentOf field tenant reply).mapError .of
  | .error failure => if failure.problem = .documentMissing then .ok .null else .error failure

lemma get_eq (target : Target) (field index id tenant : Value) :
    target.get field index id tenant = fun s =>
      (gotten field tenant (target.call (.get index id) s).1,
        (target.call (.get index id) s).2) := by
  funext s
  rw [get]
  rcases target.call (.get index id) s with ⟨failure | reply, after⟩
  · dsimp only [gotten]
    split <;> rfl
  · rfl

lemma composed_get (target : Target) (field index id tenant : Value) :
    target.ComposedOfCalls (target.get field index id tenant) := by
  rw [get_eq]
  refine .answer (gotten field tenant) ?_ (.request (DocumentRequest.get index id) rfl)
  intro failure hfailure
  rw [gotten, if_neg hfailure]

end Target

namespace Item

/-- Sends a request to the table service, with the credential problem behind a failure brought to
the surface. -/
def call (request : TableRequest) : Action Services Failure Value :=
  Failure.surfacing (Services.callTable request)

/-- The actions that are composed of requests to the table service. -/
abbrev ComposedOfCalls {α : Type} (action : Action Services Failure α) : Prop :=
  Composed TableRequest.isClose call action

lemma composed_put (field table id document tenant : Value) :
    ComposedOfCalls (put field table id document tenant) := by
  apply Composed.bind (.unchanged fun _ => rfl)
  intro item
  exact .request (TableRequest.putItem table item) rfl

lemma composed_get (field table id tenant : Value) :
    ComposedOfCalls (get field table id tenant) := by
  apply Composed.bind (.unchanged fun _ => rfl)
  intro key
  apply Composed.bind (.request (TableRequest.getItem table key) rfl)
  intro reply
  exact .unchanged fun _ => rfl

lemma composed_putAll (field table tenant : Value) (elements : List Value) :
    ComposedOfCalls (putAll field table tenant elements) := by
  induction elements with
  | nil => exact .unchanged fun _ => rfl
  | cons element rest ih =>
    apply Composed.bind (.unchanged fun _ => rfl)
    rintro ⟨id, document⟩
    apply Composed.bind (composed_put field table id document tenant)
    intro answer
    apply Composed.bind ih
    intro answers
    exact .unchanged fun _ => rfl

lemma composed_bulk (field table documents tenant : Value) :
    ComposedOfCalls (bulk field table documents tenant) := by
  apply Composed.bind (.unchanged fun _ => rfl)
  intro elements
  apply Composed.bind (composed_putAll field table tenant elements)
  intro answers
  exact .unchanged fun _ => rfl

end Item

namespace Client

/-- What a client can be told to do. -/
inductive Command where
  | operate (operation : Operation)
  | search (index body tenant : Value)
  | close

namespace Command

/-- Carries out a command. -/
def run (client : Client) : Command → Action Services Failure Value
  | operate operation => operation.run client
  | search index body tenant => client.search index body tenant
  | close => (fun _ => .null) <$> client.close

/-- The services after a command. -/
def perform (client : Client) (command : Command) (s : Services) : Services :=
  (command.run client s).2

/-- Whether a command is for documents: a list of documents has to have an element. -/
def IsForDocuments : Command → Prop
  | operate (.bulk _ documents _) => ∃ first rest, documents.elements = .ok (first :: rest)
  | operate _ => True
  | search .. => True
  | close => False

lemma IsForDocuments.ne_close {command : Command} (h : command.IsForDocuments) :
    command ≠ .close := by
  rintro rfl
  exact h

end Command

/-- The service that a client of remote services sends the requests of a command to. -/
def remoteFor (client : Client) (command : Command) : Remote :=
  match client.delegate, command with
  | .table .., .operate _ => .table
  | _, _ => .cluster

/-- Whether the services of a client are remote, with requests that are signed for a region. -/
def IsWired (client : Client) (credentials : Credentials.Deferred) (region serviceName : Value)
    (s : Services) : Prop :=
  match client.delegate with
  | .callerStore .. => False
  | .cluster _ => Wired credentials region serviceName s .cluster
  | .table .. =>
    Wired credentials region serviceName s .table ∧ Wired credentials region serviceName s .cluster

variable {client : Client}

lemma IsWired.of_traffic (h : client.IsWired credentials region serviceName s)
    {script : List (Event Credentials.Use)}
    (htraffic : Traffic credentials region serviceName s script sent after) :
    client.IsWired credentials region serviceName after := by
  rw [IsWired] at h ⊢
  split at h
  · exact h
  · exact Wired.of_traffic h htraffic
  · exact ⟨h.1.of_traffic htraffic, h.2.of_traffic htraffic⟩

/-- The ways in which a client of remote services carries out a command that does not close it. -/
inductive CarriesOut (client : Client) (command : Command) : Prop where
  | onCluster (action : Action Services Failure Value) (hremote : client.remoteFor command = .cluster)
      (hrun : command.run client = Failure.surfacing action)
      (hcomposed : Target.cluster.ComposedOfCalls action)
  | onTable (hremote : client.remoteFor command = .table)
      (hcomposed : Item.ComposedOfCalls (command.run client))

/-- A client of remote services works on one of them at a time. -/
lemma carriesOut (h : client.IsWired credentials region serviceName s) {command : Command}
    (hopen : command ≠ .close) : client.CarriesOut command := by
  obtain ⟨delegate, multiTenancy⟩ := client
  cases delegate with
  | callerStore registry field => cases h
  | cluster backend =>
    cases command with
    | operate operation =>
      cases operation with
      | put write => exact .onCluster _ rfl rfl (Target.composed_put _ _ _ _ _ _)
      | bulk index documents tenant => exact .onCluster _ rfl rfl (Target.composed_bulk _ _ _ _ _)
      | get index id tenant => exact .onCluster _ rfl rfl (Target.composed_get _ _ _ _ _)
    | search index body tenant => exact .onCluster _ rfl rfl (Target.composed_search _ _ _ _ _)
    | close => exact absurd rfl hopen
  | table own search field =>
    cases command with
    | operate operation =>
      cases operation with
      | put write => exact .onTable rfl (Item.composed_put _ _ _ _ _)
      | bulk index documents tenant => exact .onTable rfl (Item.composed_bulk _ _ _ _)
      | get index id tenant => exact .onTable rfl (Item.composed_get _ _ _ _)
    | search index body tenant => exact .onCluster _ rfl rfl (Target.composed_search _ _ _ _ _)
    | close => exact absurd rfl hopen

lemma IsWired.wired (h : client.IsWired credentials region serviceName s) (command : Command) :
    Wired credentials region serviceName s (client.remoteFor command) := by
  obtain ⟨delegate, multiTenancy⟩ := client
  cases delegate with
  | callerStore registry field => cases h
  | cluster backend => exact h
  | table own search field =>
    cases command with
    | operate operation => exact h.1
    | search index body tenant => exact h.2
    | close => exact h.2

/-- A list without elements is not sent anywhere. -/
lemma bulk_unchanged {index documents tenant : Value}
    (h : ∀ first rest, documents.elements ≠ .ok (first :: rest)) (s : Services) :
    (client.bulk index documents tenant s).2 = s := by
  obtain ⟨delegate, multiTenancy⟩ := client
  cases delegate with
  | callerStore registry field => exact Services.lift_elements_unchanged h rfl
  | cluster backend => exact Services.lift_elements_unchanged h rfl
  | table own search field => exact Services.lift_elements_unchanged h rfl

lemma close_moves (h : client.IsWired credentials region serviceName s) :
    Moves credentials region serviceName s [] (client.close s).2 := by
  obtain ⟨delegate, multiTenancy⟩ := client
  cases delegate with
  | callerStore registry field => cases h
  | cluster backend => exact Services.moves_closeCluster h
  | table own search field =>
    have htable := Services.moves_callTable h.1 .close
    exact htable.trans (Services.moves_closeCluster (h.2.of_traffic htable))

/-- A command that is not for documents sends nothing. -/
lemma Command.moves_of_not (h : client.IsWired credentials region serviceName s) {command : Command}
    (hnot : ¬ command.IsForDocuments) :
    Moves credentials region serviceName s [] (command.perform client s) := by
  cases command with
  | operate operation =>
    cases operation with
    | put write => exact absurd trivial hnot
    | bulk index documents tenant =>
      have hsame : (client.bulk index documents tenant s).2 = s :=
        bulk_unchanged (fun first rest helements => hnot ⟨first, rest, helements⟩) s
      rw [perform, run, Operation.run, hsame]
      exact .refl credentials region serviceName s
    | get index id tenant => exact absurd trivial hnot
  | search index body tenant => exact absurd trivial hnot
  | close =>
    rw [perform, run, Action.map_apply]
    exact close_moves h

/-- A command is carried out with requests to one service. -/
lemma Command.moves (h : client.IsWired credentials region serviceName s) (command : Command) :
    ∃ sent, (∀ request ∈ sent, request.remote = client.remoteFor command) ∧
      Moves credentials region serviceName s sent (command.perform client s) := by
  by_cases hdocuments : command.IsForDocuments
  · have hsending : Sending (client.remoteFor command) credentials region serviceName
        (command.run client) := by
      cases carriesOut h hdocuments.ne_close with
      | onCluster action hremote hrun hcomposed =>
        rw [hremote, hrun]
        exact (hcomposed.sending Sending.callCluster).surfacing
      | onTable hremote hcomposed =>
        rw [hremote]
        exact hcomposed.sending fun request => (Sending.callTable request).surfacing
    exact hsending s (h.wired command)
  · exact ⟨[], by simp, command.moves_of_not h hdocuments⟩

end Client
end Metastore
