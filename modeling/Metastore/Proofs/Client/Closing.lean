import Metastore.Proofs.Client.Building
import Metastore.Proofs.Client.Commands

/-!
# Closing clients

A client may be closed as often as one likes, and also by leaving a block that it is used in. Whatever
else is done with it, and whatever fails, the search cluster is told to close once, at the first of these
times, a table service each time, and the caller's own store never (`Client.closed_once`).
-/

namespace Metastore

open Services (Composed)

/-- How often the services of a client were told to close, and whether the search cluster counts as
closed. There is no count for a service that is not there. -/
structure Closings where
  callerStore : Option Nat
  cluster : Option (Bool × Nat)
  table : Option Nat
  earlierClusters : List Nat
  earlierTables : List Nat

namespace Closings

/-- Once more, if a request is one that ends the connection. -/
def count (isClose : Bool) (n : Nat) : Nat := if isClose then n + 1 else n

lemma count_false : count false = id := rfl

/-- Closes the search cluster: it is told so unless it counts as closed. -/
def closeCluster (closings : Closings) : Closings :=
  { closings with cluster := closings.cluster.map fun (closed, n) => (true, count (!closed) n) }

/-- Closes the table service. -/
def closeTable (closings : Closings) : Closings :=
  { closings with table := closings.table.map (count true) }

/-- A search cluster that was open is told to close once, however often it is closed. -/
lemma iterate_closeCluster {closings : Closings} (h : closings.cluster = some (false, 0))
    (times : Nat) :
    closeCluster^[times] closings =
      { closings with cluster := some (decide (0 < times), min times 1) } := by
  induction times with
  | zero => exact congrArg (fun cluster => { closings with cluster }) h
  | succ times ih =>
    rw [Function.iterate_succ_apply', ih]
    cases times with
    | zero => rfl
    | succ times => simp [closeCluster, count]

lemma iterate_closeTable (closings : Closings) (times : Nat) :
    closeTable^[times] closings = { closings with table := closings.table.map (· + times) } := by
  induction times with
  | zero => simp
  | succ times ih =>
    rw [Function.iterate_succ_apply', ih, closeTable, Option.map_map]
    rfl

end Closings

namespace Services

/-- How often the caller's own store was told to close. -/
def callerCloses (s : Services) : Option Nat := s.callerStore.map (·.countCalls "close")

/-- How often the services were told to close. -/
def closings (s : Services) : Closings where
  callerStore := s.callerCloses
  cluster := s.cluster.map fun cluster => (cluster.closed, cluster.service.countCalls "close")
  table := s.table.map (·.service.countCalls "close")
  earlierClusters := s.earlierClusters.map (·.service.countCalls "close")
  earlierTables := s.earlierTables.map (·.service.countCalls "close")

lemma clusterCloses_eq (s : Services) :
    s.clusterCloses = s.closings.earlierClusters ++ (s.closings.cluster.map (·.2)).toList := by
  rw [clusterCloses, clusters, List.map_append, closings]
  cases s.cluster <;> rfl

lemma tableCloses_eq (s : Services) :
    s.tableCloses = s.closings.earlierTables ++ s.closings.table.toList := by
  rw [tableCloses, tables, List.map_append, closings]
  cases s.table <;> rfl

/-! ### Requests -/

lemma method_eq_close (request : DocumentRequest) :
    (Requests.method request == "close") = request.isClose := by
  cases request <;> rfl

lemma method_eq_close_table (request : TableRequest) :
    (Requests.method request == "close") = request.isClose := by
  cases request <;> rfl

/-- A service that received a request was told to close if the request says so. -/
lemma countCalls_of_received {Request Contents : Type} [Requests Request Contents]
    {service after : Service Request Contents} {request : Request} {signature : Option Signature}
    (h : after.calls = service.calls ++ [⟨request, signature⟩]) :
    after.countCalls "close" =
      Closings.count (Requests.method request == "close") (service.countCalls "close") := by
  rw [Service.countCalls, h, List.countP_append, List.countP_singleton, Service.countCalls,
    Closings.count]
  split <;> simp

lemma Signing.exists_chains_eq {α : Type} {signer : Option Credentials.Deferred} {s : Services}
    {outcome : Except Problem α × Services} (h : Signing signer s outcome) :
    ∃ chains, outcome.2 = { s with chains } := by
  cases h with
  | signed signature chains hkept => exact ⟨chains, rfl⟩
  | unsigned problem chains hsigner hnot => exact ⟨chains, rfl⟩

lemma closings_callStore (request : DocumentRequest) (s : Services) :
    (callStore request s).2.closings = { s.closings with
      callerStore := s.callerCloses.map (Closings.count request.isClose) } := by
  rw [callStore]
  split
  · next hnone => simp [closings, callerCloses, hnone]
  · next store hstore =>
    have hcalls : ((store.record request none).answer request).2.calls =
        store.calls ++ [⟨request, none⟩] := calls_answer _ request
    simp [closings, callerCloses, hstore, countCalls_of_received hcalls, method_eq_close]

lemma closings_callCluster (request : DocumentRequest) (s : Services) :
    (callCluster request s).2.closings = { s.closings with
      cluster := s.closings.cluster.map fun (closed, n) =>
        (closed, Closings.count request.isClose n) } := by
  cases hcluster : s.cluster with
  | none => simp [callCluster, closings, hcluster]
  | some cluster =>
    obtain ⟨service, hcalls, hafter⟩ := callCluster_after hcluster request
    obtain ⟨chains, hchains⟩ := (signing_signFor cluster.transport request s).exists_chains_eq
    rw [hafter, hchains]
    simp [closings, callerCloses, hcluster, countCalls_of_received hcalls, method_eq_close]

lemma closings_callTable (request : TableRequest) (s : Services) :
    (callTable request s).2.closings = { s.closings with
      table := s.closings.table.map (Closings.count request.isClose) } := by
  cases htable : s.table with
  | none => simp [callTable, closings, htable]
  | some table =>
    obtain ⟨service, hcalls, hafter⟩ := callTable_after htable request
    obtain ⟨chains, hchains⟩ :=
      (signing_signForTable table.credentials table.region request s).exists_chains_eq
    rw [hafter, hchains]
    simp [closings, callerCloses, htable, countCalls_of_received hcalls, method_eq_close_table]

/-- The search cluster counts as closed before it is told so, whether that fails or not. -/
lemma closings_closeCluster (s : Services) :
    (closeCluster s).2.closings = s.closings.closeCluster := by
  rw [closeCluster]
  split
  · next hnone => simp [closings, Closings.closeCluster, hnone]
  · next cluster hcluster =>
    split
    · next hclosed =>
      simp [closings, Closings.closeCluster, hcluster, hclosed, Closings.count]
    · next hopen =>
      have hafter := closings_callCluster .close
        { s with cluster := some { cluster with closed := true } }
      refine hafter.trans ?_
      simp [closings, Closings.closeCluster, callerCloses, hcluster, hopen, DocumentRequest.isClose]

/-! ### Actions that close nothing -/

/-- Whether an action closes nothing. -/
def LeavesOpen {α : Type} (action : Action Services Failure α) : Prop :=
  ∀ s, (action s).2.closings = s.closings

/-- A composition of requests that do not end the connection closes nothing. -/
lemma Composed.leavesOpen {Request α : Type} {isClose : Request → Bool}
    {call : Request → Action Services Failure Value} {action : Action Services Failure α}
    (h : Composed isClose call action)
    (hcall : ∀ request, isClose request = false → LeavesOpen (call request)) :
    LeavesOpen action := by
  induction h with
  | request request hopen => exact hcall request hopen
  | unchanged h => exact fun s => congrArg closings (h s)
  | @bind _ _ action next h hnext ih ihnext =>
    intro s
    have haction := ih s
    rw [Action.bind_apply]
    generalize action s = outcome at haction
    rcases outcome with ⟨failure | a, between⟩
    · exact haction
    · exact (ihnext a between).trans haction
  | answer answer hfailure h ih => exact ih

end Services

open Services (LeavesOpen)

lemma Target.leavesOpen_call (target : Target) (request : DocumentRequest)
    (hopen : request.isClose = false) : LeavesOpen (target.call request) := by
  intro s
  cases target with
  | callerStore =>
    rw [call, Services.closings_callStore, hopen, Closings.count_false, Option.map_id]
    rfl
  | cluster =>
    rw [call, Services.closings_callCluster, hopen, Closings.count_false]
    simp

lemma Item.leavesOpen_call (request : TableRequest) (hopen : request.isClose = false) :
    LeavesOpen (call request) := by
  intro s
  show (Services.callTable request s).2.closings = _
  rw [Services.closings_callTable, hopen, Closings.count_false, Option.map_id]
  rfl

namespace Client

variable {client : Client}

/-- What closing a client once does to the counts. -/
def closeOnce (client : Client) : Closings → Closings :=
  match client.delegate with
  | .callerStore .. => id
  | .cluster _ => Closings.closeCluster
  | .table .. => fun closings => closings.closeTable.closeCluster

/-- Closing a table service that fails to close does not keep the search cluster from being closed. -/
lemma closings_close (client : Client) (s : Services) :
    (client.close s).2.closings = client.closeOnce s.closings := by
  obtain ⟨delegate, multiTenancy⟩ := client
  cases delegate with
  | callerStore registry field => rfl
  | cluster backend => exact Services.closings_closeCluster s
  | table region search field =>
    show (Services.closeCluster (Services.callTable .close s).2).2.closings = _
    rw [Services.closings_closeCluster, Services.closings_callTable]
    rfl

/-- Commands other than closing close nothing. -/
lemma Command.leavesOpen {command : Command} (hopen : command ≠ .close) :
    LeavesOpen (command.run client) := by
  have hstore {action : Action Services Failure Value} (h : Target.callerStore.ComposedOfCalls action) :
      LeavesOpen action := h.leavesOpen (Target.leavesOpen_call .callerStore)
  have hcluster {action : Action Services Failure Value} (h : Target.cluster.ComposedOfCalls action) :
      LeavesOpen (Failure.surfacing action) := h.leavesOpen (Target.leavesOpen_call .cluster)
  have hitems {action : Action Services Failure Value} (h : Item.ComposedOfCalls action) :
      LeavesOpen action := h.leavesOpen Item.leavesOpen_call
  obtain ⟨delegate, multiTenancy⟩ := client
  cases command with
  | operate operation =>
    cases operation with
    | put write =>
      cases delegate with
      | callerStore registry field => exact hstore (Target.composed_put _ _ _ _ _ _)
      | cluster backend => exact hcluster (Target.composed_put _ _ _ _ _ _)
      | table region search field => exact hitems (Item.composed_put _ _ _ _ _)
    | bulk index documents tenant =>
      cases delegate with
      | callerStore registry field => exact hstore (Target.composed_bulk _ _ _ _ _)
      | cluster backend => exact hcluster (Target.composed_bulk _ _ _ _ _)
      | table region search field => exact hitems (Item.composed_bulk _ _ _ _)
    | get index id tenant =>
      cases delegate with
      | callerStore registry field => exact hstore (Target.composed_get _ _ _ _ _)
      | cluster backend => exact hcluster (Target.composed_get _ _ _ _ _)
      | table region search field => exact hitems (Item.composed_get _ _ _ _)
  | search index body tenant =>
    cases delegate with
    | callerStore registry field => exact hstore (Target.composed_search _ _ _ _ _)
    | cluster backend => exact hcluster (Target.composed_search _ _ _ _ _)
    | table region search field => exact hcluster (Target.composed_search _ _ _ _ _)
  | close => exact absurd rfl hopen

/-! ### Using a client -/

/-- What a caller does with a client. -/
inductive Usage where
  | command (command : Command)
  /-- Uses the client in turn until something fails, and goes on after that. -/
  | attempt (body : List Usage)
  /-- Uses the client in turn until something fails, and closes it on the way out. -/
  | within (body : List Usage)

namespace Usage

mutual

/-- Uses a client. -/
def run (client : Client) : Usage → Action Services Failure Unit
  | command c => (fun _ => ()) <$> c.run client
  | attempt body => fun s => (.ok (), (runAll client body s).2)
  | within body => client.during (runAll client body)

/-- Uses a client in turn, until something fails. -/
def runAll (client : Client) : List Usage → Action Services Failure Unit
  | [] => return ()
  | usage :: rest => do
    usage.run client
    runAll client rest

end

mutual

/-- How often a client is closed as it is used. -/
def closes (client : Client) : Usage → Services → Nat
  | command .close, _ => 1
  | command _, _ => 0
  | attempt body, s => closesAll client body s
  | within body, s => closesAll client body s + 1

/-- How often a client is closed as it is used in turn, until something fails. -/
def closesAll (client : Client) : List Usage → Services → Nat
  | [], _ => 0
  | usage :: rest, s =>
    usage.closes client s + match usage.run client s with
      | (.ok _, after) => closesAll client rest after
      | (.error _, _) => 0

end

mutual

/-- What is told to close is what is closed each time that the client is. -/
theorem closings_run (client : Client) (usage : Usage) (s : Services) :
    (usage.run client s).2.closings = client.closeOnce^[usage.closes client s] s.closings := by
  match usage with
  | command (.operate operation) =>
    rw [run, Action.map_apply]
    exact Command.leavesOpen Command.noConfusion s
  | command (.search index body tenant) =>
    rw [run, Action.map_apply]
    exact Command.leavesOpen Command.noConfusion s
  | command .close =>
    rw [run, Action.map_apply, Command.run, Action.map_apply]
    exact closings_close client s
  | attempt body =>
    rw [run, closes]
    exact closings_runAll client body s
  | within body =>
    rw [run, closes, Function.iterate_succ_apply', ← closings_runAll client body s]
    exact closings_close client _

theorem closings_runAll (client : Client) (usages : List Usage) (s : Services) :
    (runAll client usages s).2.closings =
      client.closeOnce^[closesAll client usages s] s.closings := by
  match usages with
  | [] => rfl
  | usage :: rest =>
    have hfirst := closings_run client usage s
    rw [runAll, closesAll, Action.bind_apply]
    rcases hrun : usage.run client s with ⟨failure | _, between⟩
    · rw [hrun] at hfirst
      exact hfirst
    · rw [hrun] at hfirst
      dsimp only at hfirst ⊢
      rw [closings_runAll client rest between, hfirst, ← Function.iterate_add_apply, Nat.add_comm]

end

end Usage

/-! ### Runs -/

/-- What happens to a client and its services: the client is used, or a service has a reply, which may
be a failure, prepared for the next call of a method. -/
inductive Occurrence where
  | use (usage : Usage)
  | prepareStore (target : Target) (method : String) (reply : Reply)
  | prepareTable (method : String) (reply : Reply)

namespace Occurrence

/-- The services after an occurrence. -/
def perform (client : Client) : Occurrence → Services → Services
  | use usage, s => (usage.run client s).2
  | prepareStore .callerStore method reply, s =>
    { s with callerStore := s.callerStore.map (·.prepare method reply) }
  | prepareStore .cluster method reply, s =>
    { s with cluster := s.cluster.map fun cluster =>
        { cluster with service := cluster.service.prepare method reply } }
  | prepareTable method reply, s =>
    { s with table := s.table.map fun table =>
        { table with service := table.service.prepare method reply } }

/-- How often a client is closed in an occurrence. -/
def closes (client : Client) : Occurrence → Services → Nat
  | use usage, s => usage.closes client s
  | _, _ => 0

lemma closings_perform (client : Client) (occurrence : Occurrence) (s : Services) :
    (occurrence.perform client s).closings =
      client.closeOnce^[occurrence.closes client s] s.closings := by
  cases occurrence with
  | use usage => exact usage.closings_run client s
  | prepareStore target method reply =>
    cases target with
    | callerStore =>
      rw [perform, Services.closings, Services.callerCloses, Option.map_map]
      rfl
    | cluster =>
      rw [perform, Services.closings, Option.map_map]
      rfl
  | prepareTable method reply =>
    rw [perform, Services.closings, Option.map_map]
    rfl

end Occurrence

/-- How often a client is closed in a run. -/
def closesIn (client : Client) (s : Services) : List (Event Occurrence) → Nat
  | [] => 0
  | .perform occurrence :: rest =>
    occurrence.closes client s + client.closesIn (occurrence.perform client s) rest
  | event :: rest => client.closesIn (s.step (Occurrence.perform client) event) rest

lemma closings_after (client : Client) (s : Services) (events : List (Event Occurrence)) :
    (s.run (Occurrence.perform client) events).closings =
      client.closeOnce^[client.closesIn s events] s.closings := by
  induction events generalizing s with
  | nil => rfl
  | cons event rest ih =>
    rw [Services.run_cons, ih]
    cases event with
    | perform occurrence =>
      rw [closesIn, Nat.add_comm, Function.iterate_add_apply, ← occurrence.closings_perform]
      rfl
    | advance seconds => rfl
    | updateSource index change => rfl

/-! ### Open clients -/

/-- Whether everything that closing a client closes is there, and was never told to close. -/
def IsOpen (client : Client) (s : Services) : Prop :=
  match client.delegate with
  | .callerStore .. => True
  | .cluster _ => s.closings.cluster = some (false, 0)
  | .table .. => s.closings.cluster = some (false, 0) ∧ s.closings.table = some 0

lemma isOpen_of_making {opening : Setup Credentials.ChainRef} {around : Surroundings} {kind : Value}
    {read : BackendSettings} {begin after : Privileged Services}
    (h : Delegate.Making opening around kind read begin (.ok client.delegate, after)) :
    client.IsOpen after.state := by
  obtain ⟨delegate, multiTenancy⟩ := client
  cases h with
  | onCallerStore hbackend => trivial
  | remote transport notices hbackend hnotices htransport hbuilt => exact rfl
  | cloud chain transport between hbackend hsearching => exact rfl
  | keyValue chain transport between hbackend hsearching => exact ⟨rfl, rfl⟩

/-- What a client that was open is told to close when it is closed a number of times: its search cluster
once if at all, and its table service each time. Nothing else is told to close. -/
structure ClosedTimes (client : Client) (times : Nat) (before after : Services) : Prop where
  callerCloses_eq : after.callerCloses = before.callerCloses
  clusterCloses_eq : client.kind ≠ .local → ∃ earlier, before.clusterCloses = earlier ++ [0] ∧
    after.clusterCloses = earlier ++ [if times = 0 then 0 else 1]
  clusterCloses_of_local : client.kind = .local → after.clusterCloses = before.clusterCloses
  tableCloses_eq : client.kind = .keyValue → ∃ earlier, before.tableCloses = earlier ++ [0] ∧
    after.tableCloses = earlier ++ [times]
  tableCloses_of_ne : client.kind ≠ .keyValue → after.tableCloses = before.tableCloses

lemma closedTimes_of_closings {s after : Services} (h : client.IsOpen s) {times : Nat}
    (hafter : after.closings = client.closeOnce^[times] s.closings) :
    client.ClosedTimes times s after := by
  obtain ⟨delegate, multiTenancy⟩ := client
  have hcaller : after.callerCloses = after.closings.callerStore := rfl
  have hcount : min times 1 = if times = 0 then 0 else 1 := by split <;> omega
  cases delegate with
  | callerStore registry field =>
    have hsame : after.closings = s.closings := by rw [hafter, closeOnce, Function.iterate_id]; rfl
    refine ⟨?_, fun hkind => absurd rfl hkind, fun _ => ?_, fun hkind => (by cases hkind), fun _ => ?_⟩
    · rw [hcaller, hsame]
      rfl
    · rw [Services.clusterCloses_eq, hsame, Services.clusterCloses_eq]
    · rw [Services.tableCloses_eq, hsame, Services.tableCloses_eq]
  | cluster backend =>
    have hkind : backend.kind ≠ .keyValue ∧ backend.kind ≠ .local := by
      rw [ClusterBackend.kind]
      split <;> exact ⟨DelegateKind.noConfusion, DelegateKind.noConfusion⟩
    have hclosed := Closings.iterate_closeCluster h times
    refine ⟨?_, fun _ => ?_, fun hlocal => absurd hlocal hkind.2, fun htable => absurd htable hkind.1,
      fun _ => ?_⟩
    · rw [hcaller, hafter, closeOnce, hclosed]
      rfl
    · refine ⟨s.closings.earlierClusters, ?_, ?_⟩
      · rw [Services.clusterCloses_eq, h]
        rfl
      · rw [Services.clusterCloses_eq, hafter, closeOnce, hclosed, ← hcount]
        rfl
    · rw [Services.tableCloses_eq, hafter, closeOnce, hclosed, Services.tableCloses_eq]
  | table region search field =>
    obtain ⟨hcluster, htable⟩ := h
    have hcommute : Function.Commute Closings.closeTable Closings.closeCluster := fun _ => rfl
    have hclosed : after.closings = { s.closings with
        cluster := some (decide (0 < times), min times 1), table := some times } := by
      rw [hafter]
      show (Closings.closeTable ∘ Closings.closeCluster)^[times] s.closings = _
      rw [hcommute.comp_iterate, Function.comp_apply, Closings.iterate_closeCluster hcluster,
        Closings.iterate_closeTable, htable]
      simp
    refine ⟨?_, fun _ => ?_, fun hlocal => (by cases hlocal), fun _ => ?_,
      fun hkind => absurd rfl hkind⟩
    · rw [hcaller, hclosed]
      rfl
    · refine ⟨s.closings.earlierClusters, ?_, ?_⟩
      · rw [Services.clusterCloses_eq, hcluster]
        rfl
      · rw [Services.clusterCloses_eq, hclosed, ← hcount]
        rfl
    · refine ⟨s.closings.earlierTables, ?_, ?_⟩
      · rw [Services.tableCloses_eq, htable]
        rfl
      · rw [Services.tableCloses_eq, hclosed]
        rfl

/-- Every client that is created is open. Take any client that is open, and any run in which it is used,
closed and left by whatever way, its services have replies and failures prepared for them, those of
closing included, time passes and sources change. The caller's own store is never told to close. The
search cluster has been told so once if the client was closed, and not at all otherwise; a table service
has been told so each time; what other clients are connected to has not been told so again. -/
theorem closed_once :
    (∀ {around : Surroundings} {settings : Mapping} {begin after : Privileged Services}
      {client : Client}, create around settings begin = (.ok client, after) →
        client.IsOpen after.state) ∧
    ∀ {client : Client} {start : Services}, client.IsOpen start →
      ∀ events : List (Event Occurrence),
        client.ClosedTimes (client.closesIn start events) start
          (start.run (Occurrence.perform client) events) := by
  constructor
  · intro around settings begin after client hcreate
    obtain ⟨read, -, hmaking, -⟩ := making_of_createOpening hcreate
    exact isOpen_of_making hmaking
  · intro client start hopen events
    exact closedTimes_of_closings hopen (client.closings_after start events)

/-- Both services of a client fail to close. The client is closed within a block, which that failure ends
and which closes it again on the way out, and once more after it. -/
theorem closed_once_failing :
    let around : Surroundings := { sources := [{ method := "env", accessKey := some "key" }] }
    let settings : Mapping :=
      [(.text "metadata-type", .text "keyvalue"), (.text "endpoint", .text "https://h"),
        (.text "region", .text "eu-west-1"), (.text "service-name", .text "es")]
    let put : Command := .operate (.put ⟨.text "i", .text "d", .map [], .null⟩)
    let events : List (Event Occurrence) :=
      [.perform (.prepareTable "close" (.failure (.of .connectionRefused))),
        .perform (.prepareStore .cluster "close" (.failure (.of .connectionFailed))),
        .perform (.use (.within [.command put, .command .close, .command put])),
        .perform (.use (.command .close))]
    ∃ client, (create around settings ⟨false, {}⟩).1 = .ok client ∧
      let start := (create around settings ⟨false, {}⟩).2.state
      let s := start.run (Occurrence.perform client) events
      client.closesIn start events = 3 ∧ s.clusterCloses = [1] ∧ s.tableCloses = [3] := by
  intro around settings put events
  let transport : Transport :=
    ⟨.text "https://h", ⟨.https, "h", 443⟩, .signing ⟨⟨0⟩⟩ (.text "eu-west-1") (.text "es"), none,
      20, true⟩
  let client : Client := ⟨.table (.text "eu-west-1") ⟨transport, .null⟩ .null, false⟩
  have hclient : (create around settings ⟨false, {}⟩).1 = .ok client := by decide +kernel
  have hcreate : create around settings ⟨false, {}⟩ =
      (.ok client, (create around settings ⟨false, {}⟩).2) := by
    generalize create around settings ⟨false, {}⟩ = outcome at hclient ⊢
    exact Prod.ext hclient rfl
  have htimes : client.closesIn (create around settings ⟨false, {}⟩).2.state events = 3 := by
    decide +kernel
  obtain ⟨hcreated, hrun⟩ := closed_once
  have hclosed := hrun (hcreated hcreate) events
  rw [htimes] at hclosed
  obtain ⟨earlier, hbefore, hclusters⟩ := hclosed.clusterCloses_eq DelegateKind.noConfusion
  obtain ⟨earlier', hbefore', htables⟩ := hclosed.tableCloses_eq rfl
  have hclusterOpen : (create around settings ⟨false, {}⟩).2.state.clusterCloses = [] ++ [0] := by
    decide +kernel
  have htableOpen : (create around settings ⟨false, {}⟩).2.state.tableCloses = [] ++ [0] := by
    decide +kernel
  obtain rfl := List.append_cancel_right (hclusterOpen.symm.trans hbefore)
  obtain rfl := List.append_cancel_right (htableOpen.symm.trans hbefore')
  exact ⟨client, hclient, htimes, hclusters, htables⟩

end Client
end Metastore
