import Metastore.Client.Items
import Metastore.Proofs.Credentials.Freshness

/-!
# Traffic

The table service and the search cluster of a client are asked with signed requests.
`Services.Traffic` says of two states of the services which requests lie between them, and that a
script for a single chain of credentials explains how they were signed; in `Services.Moves` the script
has one use for each request, whichever service it was for. Stretches of traffic are put together by
`Services.Traffic.trans`, actions by `Services.Sending.bind`.
-/

namespace Metastore

/-- A service that is asked with signed requests. -/
inductive Remote where
  | table
  | cluster
deriving DecidableEq

/-- A request to a service, with its signature if it could be signed. -/
structure Sent where
  remote : Remote
  signature : Option Signature

namespace Credentials

/-- What the uses of a run give, in turn. -/
def handedIn (credentials : Deferred) (s : Services) : List (Event Use) → List (Option Handed)
  | [] => []
  | .perform use :: rest =>
    (use.run credentials s).1.toOption :: handedIn credentials (use.perform credentials s) rest
  | event :: rest => handedIn credentials (s.step (Use.perform credentials) event) rest

lemma handedIn_append (credentials : Deferred) (s : Services) (before after : List (Event Use)) :
    handedIn credentials s (before ++ after) = handedIn credentials s before ++
      handedIn credentials (s.run (Use.perform credentials) before) after := by
  induction before generalizing s with
  | nil => rfl
  | cons event rest ih =>
    cases event with
    | perform use => simp [handedIn, ih, Services.step]
    | advance seconds => simp [handedIn, ih]
    | updateSource index change => simp [handedIn, ih]

end Credentials

/-- What requests to a table service are signed with, and for which region. -/
def TableClient.signedWith (table : TableClient) : Credentials.Deferred × Value :=
  (table.credentials, table.region)

namespace Services

open Credentials (Deferred Use Handed handedIn)

variable {credentials : Deferred} {region serviceName : Value} {remote : Remote}
  {s between after : Services} {sent more : List Sent} {script script' : List (Event Use)} {α β : Type}

/-! ### What has been received -/

/-- The signatures of the requests that a service received. One that ends the connection has none. -/
def signatures {Request : Type} (isClose : Request → Bool) (calls : List (Call Request)) :
    List (Option Signature) :=
  (calls.filter fun call => !isClose call.request).map (·.signature)

/-- The signatures of the requests that a service of the client received. -/
def received (s : Services) : Remote → List (Option Signature)
  | .table => (s.table.map fun table => signatures TableRequest.isClose table.service.calls).getD []
  | .cluster =>
    (s.cluster.map fun cluster => signatures DocumentRequest.isClose cluster.service.calls).getD []

lemma signatures_append {Request : Type} (isClose : Request → Bool) (calls : List (Call Request))
    (call : Call Request) :
    signatures isClose (calls ++ [call]) =
      signatures isClose calls ++ if isClose call.request then [] else [call.signature] := by
  cases h : isClose call.request <;> simp [signatures, h]

lemma calls_answer {Request Contents : Type} [Requests Request Contents]
    (service : Service Request Contents) (request : Request) :
    (service.answer request).2.calls = service.calls := by
  rw [Service.answer]
  split <;> rfl

/-! ### The use for a request -/

/-- The service that requests are signed for, where those to the search cluster are signed for one
of a given name. -/
def signedService (serviceName : Value) : Remote → Value
  | .table => .text tableServiceName
  | .cluster => serviceName

/-- The uses that requests make. -/
def usesFor (region serviceName : Value) (sent : List Sent) : List (Event Use) :=
  sent.map fun request => .perform (.signed region (signedService serviceName request.remote))

/-- The clock and the chains, apart from everything else. -/
def cache (s : Services) : Services := { now := s.now, chains := s.chains }

/-- Credentials are looked up by the clock and the chains, and nothing but the chains changes. -/
lemma lookUp_cache (credentials : Deferred) (s : Services) :
    lookUp credentials s = ((lookUp credentials s.cache).1,
      { s with chains := (lookUp credentials s.cache).2.chains }) := by
  cases hchain : s.chainOf? credentials with
  | none =>
    have hcache : s.cache.chainOf? credentials = none := hchain
    rw [lookUp_of_none hchain, lookUp_of_none hcache]
    rfl
  | some chain =>
    have hcache : s.cache.chainOf? credentials = some chain := hchain
    rw [lookUp_of_chain hchain, lookUp_of_chain hcache]
    rfl

/-- Signing goes by the clock and the chains, and changes nothing but the chains. -/
lemma sign_eq (credentials : Deferred) (region serviceName : Value) (s : Services) :
    sign credentials region serviceName s = ((sign credentials region serviceName s.cache).1,
      { s with chains := (sign credentials region serviceName s.cache).2.chains }) := by
  rw [sign_apply, lookUp_cache, sign_apply]

lemma sign_cache (credentials : Deferred) (region serviceName : Value) (s : Services) :
    (sign credentials region serviceName s.cache).2 =
      (sign credentials region serviceName s).2.cache := by
  obtain ⟨chains, hchains⟩ := lookUp_eq credentials s.cache
  rw [sign_eq credentials region serviceName s, sign_apply, hchains]
  rfl

/-- Signing is a use of the credentials. -/
lemma run_signed (credentials : Deferred) (region serviceName : Value) (s : Services) :
    ((Use.signed region serviceName).run credentials s).1 =
        (sign credentials region serviceName s).1.map .signature ∧
      (Use.signed region serviceName).perform credentials s =
        (sign credentials region serviceName s).2 := by
  rw [Use.perform, Use.run, Action.map_apply]
  exact ⟨rfl, rfl⟩

/-- A signature says what it was made for. -/
lemma signed_for {signature : Signature}
    (h : (sign credentials region serviceName s).1 = .ok signature) :
    signature.region = region ∧ signature.serviceName = serviceName := by
  rw [sign_apply] at h
  obtain ⟨found, -, rfl⟩ := except_map_eq_ok.mp h
  exact ⟨rfl, rfl⟩

/-! ### Traffic between two states -/

/-- Whether what lies between two states is explained by a script for a single chain: the services
have received some requests, and the chain and the signatures are what the script makes of them. -/
structure Traffic (credentials : Deferred) (region serviceName : Value) (s : Services)
    (script : List (Event Use)) (sent : List Sent) (after : Services) : Prop where
  authentication_eq :
    after.cluster.map (·.transport.authentication) = s.cluster.map (·.transport.authentication)
  table_eq : after.table.map (·.signedWith) = s.table.map (·.signedWith)
  received_eq : ∀ remote, after.received remote =
    s.received remote ++ (sent.filter (·.remote = remote)).map (·.signature)
  cache_eq : after.cache = s.cache.run (Use.perform credentials) script
  handed_eq : handedIn credentials s.cache script =
    sent.map fun request => request.signature.map .signature
  signed_for : ∀ request ∈ sent, ∀ signature, request.signature = some signature →
    signature.region = region ∧
      signature.serviceName = signedService serviceName request.remote

lemma Traffic.trans (h : Traffic credentials region serviceName s script sent between)
    (h' : Traffic credentials region serviceName between script' more after) :
    Traffic credentials region serviceName s (script ++ script') (sent ++ more) after where
  authentication_eq := h'.authentication_eq.trans h.authentication_eq
  table_eq := h'.table_eq.trans h.table_eq
  received_eq remote := by
    rw [h'.received_eq, h.received_eq, List.filter_append, List.map_append, List.append_assoc]
  cache_eq := by
    rw [h'.cache_eq, h.cache_eq, run_append]
  handed_eq := by
    rw [Credentials.handedIn_append, ← h.cache_eq, h.handed_eq, h'.handed_eq, List.map_append]
  signed_for request hrequest := by
    rcases List.mem_append.mp hrequest with hsent | hmore
    · exact h.signed_for request hsent
    · exact h'.signed_for request hmore

/-- Time passes for a single chain as for the services. -/
lemma traffic_advance (credentials : Deferred) (region serviceName : Value) (s : Services)
    (seconds : Nat) :
    Traffic credentials region serviceName s [.advance seconds] []
      { s with now := s.now + seconds } := by
  refine ⟨rfl, rfl, fun remote => ?_, rfl, rfl, fun request hrequest => by cases hrequest⟩
  exact (List.append_nil (s.received remote)).symm

/-- Sources change for a single chain as for the services. -/
lemma traffic_updateSource (credentials : Deferred) (region serviceName : Value) (s : Services)
    (index : Nat) (change : Source → Source) :
    Traffic credentials region serviceName s [.updateSource index change] []
      { s with chains := s.chains.map (·.updateSource index change) } := by
  refine ⟨rfl, rfl, fun remote => ?_, rfl, rfl, fun request hrequest => by cases hrequest⟩
  exact (List.append_nil (s.received remote)).symm

/-- Whether some requests lie between two states, and nothing else that matters to the chain. -/
abbrev Moves (credentials : Deferred) (region serviceName : Value) (s : Services)
    (sent : List Sent) (after : Services) : Prop :=
  Traffic credentials region serviceName s (usesFor region serviceName sent) sent after

namespace Moves

/-- Nothing was sent where nothing changed but contents and whether a connection was ended. -/
lemma of_cache_eq (hcache : after.cache = s.cache)
    (hauthentication :
      after.cluster.map (·.transport.authentication) = s.cluster.map (·.transport.authentication))
    (htable : after.table.map (·.signedWith) = s.table.map (·.signedWith))
    (hreceived : ∀ remote, after.received remote = s.received remote) :
    Moves credentials region serviceName s [] after where
  authentication_eq := hauthentication
  table_eq := htable
  received_eq remote := by simp [hreceived remote]
  cache_eq := hcache
  handed_eq := rfl
  signed_for request hrequest := by cases hrequest

lemma refl (credentials : Deferred) (region serviceName : Value) (s : Services) :
    Moves credentials region serviceName s [] s :=
  .of_cache_eq rfl rfl rfl fun _ => rfl

lemma trans (h : Moves credentials region serviceName s sent between)
    (h' : Moves credentials region serviceName between more after) :
    Moves credentials region serviceName s (sent ++ more) after := by
  rw [Moves, usesFor, List.map_append]
  exact Traffic.trans h h'

/-- A request makes one use of the chain, for the service that it goes to. -/
lemma of_sign (remote : Remote)
    (hcache : after.cache = (sign credentials region (signedService serviceName remote) s).2.cache)
    (hauthentication :
      after.cluster.map (·.transport.authentication) = s.cluster.map (·.transport.authentication))
    (htable : after.table.map (·.signedWith) = s.table.map (·.signedWith))
    (hself : after.received remote = s.received remote ++
      [(sign credentials region (signedService serviceName remote) s).1.toOption])
    (hother : ∀ other, other ≠ remote → after.received other = s.received other) :
    Moves credentials region serviceName s
      [⟨remote, (sign credentials region (signedService serviceName remote) s).1.toOption⟩] after where
  authentication_eq := hauthentication
  table_eq := htable
  received_eq other := by
    by_cases h : other = remote
    · subst h
      simpa using hself
    · simpa [Ne.symm h] using hother other h
  cache_eq := by
    rw [hcache, ← sign_cache, ← (run_signed _ _ _ s.cache).2]
    rfl
  handed_eq := by
    show [((Use.signed region (signedService serviceName remote)).run credentials s.cache).1.toOption]
      = _
    rw [(run_signed _ _ _ s.cache).1, sign_eq _ _ _ s]
    cases (sign credentials region (signedService serviceName remote) s.cache).1 <;> rfl
  signed_for request hrequest signature hsignature := by
    obtain rfl := List.mem_singleton.mp hrequest
    dsimp only at hsignature ⊢
    cases hsign : (sign credentials region (signedService serviceName remote) s).1 with
    | error problem => rw [hsign] at hsignature; cases hsignature
    | ok made =>
      rw [hsign] at hsignature
      obtain rfl : made = signature := Option.some.inj hsignature
      exact Services.signed_for hsign

end Moves

/-! ### Requests -/

/-- Whether requests to a service are signed for a region, and those to the search cluster for a
service of a given name. -/
def Wired (credentials : Deferred) (region serviceName : Value) (s : Services) : Remote → Prop
  | .table => s.table.map (·.signedWith) = some (credentials, region)
  | .cluster => s.cluster.map (·.transport.authentication) =
    some (.signing credentials region serviceName)

lemma Wired.of_traffic (h : Wired credentials region serviceName s remote)
    (htraffic : Traffic credentials region serviceName s script sent after) :
    Wired credentials region serviceName after remote := by
  cases remote with
  | table => exact htraffic.table_eq.trans h
  | cluster => exact htraffic.authentication_eq.trans h

lemma signForTable_eq (credentials : Deferred) (region : Value) (request : TableRequest) (s : Services) :
    signForTable credentials region request s = if request.isClose then (.ok none, s) else
      ((sign credentials region (.text tableServiceName) s).1.map some,
        (sign credentials region (.text tableServiceName) s).2) := by
  rw [signForTable]
  split
  · rfl
  · rw [Action.map_apply]

lemma signFor_eq {transport : Transport}
    (h : transport.authentication = .signing credentials region serviceName) (request : DocumentRequest) (s : Services) :
    signFor transport request s = if request.isClose then (.ok none, s) else
      ((sign credentials region serviceName s).1.map some,
        (sign credentials region serviceName s).2) := by
  simp only [signFor, h]
  split
  · rfl
  · rw [Action.map_apply]

/-- A request to the table service is recorded with its signature, whether it is answered or not. -/
lemma callTable_after {table : TableClient} (h : s.table = some table) (request : TableRequest) :
    ∃ service : TableService,
      service.calls = table.service.calls ++
        [⟨request, (signForTable table.credentials table.region request s).1.toOption.join⟩] ∧
      (callTable request s).2 =
        { (signForTable table.credentials table.region request s).2 with
          table := some { table with service } } := by
  rw [callTable, h]
  dsimp only
  rcases signForTable table.credentials table.region request s with ⟨problem | signature, between⟩
  · exact ⟨_, rfl, rfl⟩
  · exact ⟨_, calls_answer _ request, rfl⟩

lemma callCluster_after {cluster : Cluster} (h : s.cluster = some cluster)
    (request : DocumentRequest) :
    ∃ service : DocumentService,
      service.calls = cluster.service.calls ++
        [⟨request, (signFor cluster.transport request s).1.toOption.join⟩] ∧
      (callCluster request s).2 =
        { (signFor cluster.transport request s).2 with
          cluster := some { cluster with service } } := by
  rw [callCluster, h]
  dsimp only
  rcases signFor cluster.transport request s with ⟨problem | signature, between⟩
  · exact ⟨_, rfl, rfl⟩
  · exact ⟨_, calls_answer _ request, rfl⟩

lemma join_toOption_map {ε α : Type} (x : Except ε α) :
    (x.map some).toOption.join = x.toOption := by
  cases x <;> rfl

/-- A request to the table service is one request, unless it ends the connection. -/
lemma moves_callTable (h : Wired credentials region serviceName s .table) (request : TableRequest) :
    Moves credentials region serviceName s (if request.isClose then [] else
        [⟨.table, (sign credentials region (.text tableServiceName) s).1.toOption⟩])
      (callTable request s).2 := by
  obtain ⟨table, htable, hsigned⟩ := Option.map_eq_some_iff.mp h
  obtain ⟨rfl, rfl⟩ := Prod.mk.inj hsigned
  obtain ⟨service, hcalls, hafter⟩ := callTable_after htable request
  rw [signForTable_eq] at hcalls hafter
  rw [hafter]
  cases hclose : request.isClose with
  | true =>
    simp only [hclose, if_true] at hcalls ⊢
    refine .of_cache_eq rfl rfl (by rw [htable]; rfl) fun remote => ?_
    cases remote with
    | table => simp [received, htable, hcalls, signatures_append, hclose]
    | cluster => rfl
  | false =>
    simp only [hclose, Bool.false_eq_true, if_false, join_toOption_map] at hcalls ⊢
    refine .of_sign .table rfl ?_ (by rw [htable]; rfl) ?_ fun other hother => ?_
    · rw [sign_eq]
    · simp [received, htable, hcalls, signatures_append, hclose, signedService]
    · cases other with
      | table => exact absurd rfl hother
      | cluster =>
        rw [sign_eq]
        rfl

/-- A request to the search cluster is one request, unless it ends the connection. -/
lemma moves_callCluster (h : Wired credentials region serviceName s .cluster)
    (request : DocumentRequest) :
    Moves credentials region serviceName s (if request.isClose then [] else
        [⟨.cluster, (sign credentials region serviceName s).1.toOption⟩])
      (callCluster request s).2 := by
  obtain ⟨cluster, hcluster, hauthentication⟩ := Option.map_eq_some_iff.mp h
  obtain ⟨service, hcalls, hafter⟩ := callCluster_after hcluster request
  rw [signFor_eq hauthentication] at hcalls hafter
  rw [hafter]
  cases hclose : request.isClose with
  | true =>
    simp only [hclose, if_true] at hcalls ⊢
    refine .of_cache_eq rfl (by simp [hcluster]) rfl fun remote => ?_
    cases remote with
    | table => rfl
    | cluster => simp [received, hcluster, hcalls, signatures_append, hclose]
  | false =>
    simp only [hclose, Bool.false_eq_true, if_false, join_toOption_map] at hcalls ⊢
    refine .of_sign .cluster rfl (by simp [hcluster]) ?_ ?_ fun other hother => ?_
    · rw [sign_eq]
    · simp [received, hcluster, hcalls, signatures_append, hclose, signedService]
    · cases other with
      | table =>
        rw [sign_eq]
        rfl
      | cluster => exact absurd rfl hother

/-- Ending the connection to the search cluster takes no signed request. -/
lemma moves_closeCluster (h : Wired credentials region serviceName s .cluster) :
    Moves credentials region serviceName s [] (closeCluster s).2 := by
  rw [closeCluster]
  split
  · exact .refl credentials region serviceName s
  · next cluster hcluster =>
    split
    · exact .refl credentials region serviceName s
    · have hclosed : Moves credentials region serviceName s []
          { s with cluster := some { cluster with closed := true } } := by
        refine .of_cache_eq rfl (by simp [hcluster]) rfl fun remote => ?_
        cases remote with
        | table => rfl
        | cluster => simp [received, hcluster]
      exact hclosed.trans (moves_callCluster (h.of_traffic hclosed) .close)

/-! ### Actions -/

/-- Whether an action, wherever requests to a service are signed for a region, sends requests to no
other service. -/
def Sending (remote : Remote) (credentials : Deferred) (region serviceName : Value)
    (action : Action Services Failure α) : Prop :=
  ∀ s, Wired credentials region serviceName s remote →
    ∃ sent, (∀ request ∈ sent, request.remote = remote) ∧
      Moves credentials region serviceName s sent (action s).2

namespace Sending

variable {action : Action Services Failure α}

lemma of_unchanged (h : ∀ s, (action s).2 = s) :
    Sending remote credentials region serviceName action := by
  intro s hwired
  rw [h s]
  exact ⟨[], by simp, .refl credentials region serviceName s⟩

lemma bind (h : Sending remote credentials region serviceName action)
    {next : α → Action Services Failure β} (hnext : ∀ a, Sending remote credentials region serviceName (next a)) :
    Sending remote credentials region serviceName (action >>= next) := by
  intro s hwired
  obtain ⟨sent, hremote, hmoves⟩ := h s hwired
  rw [Action.bind_apply]
  rcases haction : action s with ⟨failure | a, between⟩
  · rw [haction] at hmoves
    exact ⟨sent, hremote, hmoves⟩
  · rw [haction] at hmoves
    obtain ⟨more, hremote', hmoves'⟩ := hnext a between (hwired.of_traffic hmoves)
    refine ⟨sent ++ more, fun request hrequest => ?_, hmoves.trans hmoves'⟩
    rcases List.mem_append.mp hrequest with hsent | hmore
    · exact hremote request hsent
    · exact hremote' request hmore

lemma surfacing (h : Sending remote credentials region serviceName action) :
    Sending remote credentials region serviceName (Failure.surfacing action) := h

lemma callTable (request : TableRequest) :
    Sending .table credentials region serviceName (Services.callTable request) := by
  intro s hwired
  refine ⟨_, ?_, moves_callTable hwired request⟩
  split <;> simp

lemma callCluster (request : DocumentRequest) :
    Sending .cluster credentials region serviceName (Services.callCluster request) := by
  intro s hwired
  refine ⟨_, ?_, moves_callCluster hwired request⟩
  split <;> simp

end Sending

end Services
end Metastore
