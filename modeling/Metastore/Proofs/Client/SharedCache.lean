import Metastore.Proofs.Client.SignedCreation

/-!
# One cache for both services

A client that keeps documents in a table sends requests to two services. Over every run, its chain of
credentials and the signatures of its requests are those of a single chain that is used once for each
request, in the order of the requests (`Client.one_cache_for_both`). Chains that were made before have no
part in it (`Services.Alongside`).
-/

namespace Metastore

open Credentials (Cached Chain Deferred Use handedIn)
open Services (Traffic Moves usesFor signedService)

variable {credentials : Credentials.Deferred} {region serviceName : Value} {remote : Remote}
  {s after : Services} {sent : List Sent}

namespace Services

/-- The requests that the services received between two states: those to the table service, then
those to the search cluster. -/
def sentBetween (s after : Services) : List Sent :=
  ((after.received .table).drop (s.received .table).length).map (Sent.mk .table) ++
    ((after.received .cluster).drop (s.received .cluster).length).map (Sent.mk .cluster)

/-- Requests to one service are all there is between two states if they lie between them. -/
lemma sentBetween_of_moves (h : Moves credentials region serviceName s sent after)
    (hremote : ∀ request ∈ sent, request.remote = remote) : sentBetween s after = sent := by
  have hsame : (sent.filter (·.remote = remote)) = sent := by simpa using hremote
  have hmap : (sent.map (·.signature)).map (Sent.mk remote) = sent := by
    rw [List.map_map]
    refine (List.map_congr_left fun request hrequest => ?_).trans (List.map_id sent)
    rw [Function.comp, ← hremote request hrequest]
    rfl
  have hother {other : Remote} (hne : other ≠ remote) : sent.filter (·.remote = other) = [] := by
    simpa using fun request hrequest => (hremote request hrequest).trans_ne hne.symm
  rw [sentBetween, h.received_eq, h.received_eq, List.drop_left, List.drop_left]
  cases remote with
  | table => rw [hsame, hother (by decide), hmap, List.map_nil, List.map_nil, List.append_nil]
  | cluster => rw [hsame, hother (by decide), hmap, List.map_nil, List.map_nil, List.nil_append]

end Services

/-! ### Chains beside each other -/

/-- What the uses of a chain leave in it: how often each source was asked, and what is cached. -/
def Credentials.Chain.memory (chain : Chain) : List Nat × Option Cached := (chain.loads, chain.cached)

lemma Credentials.Chain.memory_updateSource (chain : Chain) (index : Nat)
    (change : Source → Source) : (chain.updateSource index change).memory = chain.memory := by
  rw [memory, loads_updateSource]
  rfl

namespace Services

/-- Whether some services have one more chain than there were, which is the only one of other services,
and the chains before it remember what they did. -/
inductive Alongside (before : List Chain) : Services → Services → Prop
  | intro (now : Int) (others : List Chain) (chain : Chain)
      (hothers : others.map (·.memory) = before.map (·.memory)) :
      Alongside before { now, chains := others ++ [chain] } { now, chains := [chain] }

/-- The credentials of the only chain. -/
def onlyCredentials : Deferred := ⟨⟨0⟩⟩

variable {before : List Chain} {lone : Services}

/-- A use of the last chain is one of the only chain. -/
lemma Alongside.use (h : Alongside before s lone) (use : Use) :
    (use.run ⟨⟨before.length⟩⟩ s).1 = (use.run onlyCredentials lone).1 ∧
      Alongside before (use.perform ⟨⟨before.length⟩⟩ s) (use.perform onlyCredentials lone) := by
  obtain ⟨now, others, chain, hothers⟩ := h
  have hlength : before.length = others.length := by
    simpa using (congrArg List.length hothers).symm
  have hchain : chainOf? { now, chains := others ++ [chain] } ⟨⟨before.length⟩⟩ = some chain := by
    simp [chainOf?, hlength]
  have hlone : chainOf? { now, chains := [chain] } onlyCredentials = some chain := rfl
  rw [Use.perform_of_chain hchain, Use.perform_of_chain hlone, Use.run_of_chain hchain,
    Use.run_of_chain hlone]
  have hset : setChain { now, chains := others ++ [chain] } ⟨⟨before.length⟩⟩ (chain.use now).2 =
      { now, chains := others ++ [(chain.use now).2] } := by
    simp [setChain, hlength]
  rw [hset]
  exact ⟨rfl, .intro now others _ hothers⟩

lemma Alongside.updateSource (h : Alongside before s lone) (index : Nat) (change : Source → Source) :
    Alongside before { s with chains := s.chains.map (·.updateSource index change) }
      { lone with chains := lone.chains.map (·.updateSource index change) } := by
  obtain ⟨now, others, chain, hothers⟩ := h
  rw [List.map_append]
  refine .intro now _ _ ?_
  rw [List.map_map, ← hothers]
  exact List.map_congr_left fun other _ => other.memory_updateSource index change

/-- A run of the last chain is one of the only chain. -/
lemma Alongside.run (h : Alongside before s lone) (script : List (Event Use)) :
    handedIn ⟨⟨before.length⟩⟩ s script = handedIn onlyCredentials lone script ∧
      Alongside before (s.run (Use.perform ⟨⟨before.length⟩⟩) script)
        (lone.run (Use.perform onlyCredentials) script) := by
  induction script generalizing s lone with
  | nil => exact ⟨rfl, h⟩
  | cons event rest ih =>
    cases event with
    | perform use =>
      obtain ⟨hresult, hafter⟩ := h.use use
      obtain ⟨hhanded, hrun⟩ := ih hafter
      refine ⟨?_, hrun⟩
      rw [handedIn, handedIn, hresult, hhanded]
    | advance seconds =>
      obtain ⟨now, others, chain, hothers⟩ := h
      exact ih (.intro (now + seconds) others chain hothers)
    | updateSource index change => exact ih (h.updateSource index change)

end Services

namespace Client

open Services (Alongside sentBetween onlyCredentials)

/-- The requests that are sent in a run, in order. -/
def sentIn (client : Client) (s : Services) : List (Event Command) → List Sent
  | [] => []
  | .perform command :: rest =>
    sentBetween s (command.perform client s) ++ client.sentIn (command.perform client s) rest
  | event :: rest => client.sentIn (s.step (Command.perform client) event) rest

/-- The same run for a single chain: one use for each request, whichever service it was for. -/
def scriptOf (client : Client) (region serviceName : Value) (s : Services) :
    List (Event Command) → List (Event Use)
  | [] => []
  | .perform command :: rest =>
    usesFor region serviceName (sentBetween s (command.perform client s)) ++
      client.scriptOf region serviceName (command.perform client s) rest
  | .advance seconds :: rest =>
    .advance seconds ::
      client.scriptOf region serviceName (s.step (Command.perform client) (.advance seconds)) rest
  | .updateSource index change :: rest =>
    .updateSource index change ::
      client.scriptOf region serviceName
        (s.step (Command.perform client) (.updateSource index change)) rest

variable {client : Client}

/-- A run is explained by its script. The induction goes forward through the events: what a command
sent is known only from the services that it started from. -/
lemma traffic_run (h : client.IsWired credentials region serviceName s) (events : List (Event Command)) :
    Traffic credentials region serviceName s (client.scriptOf region serviceName s events)
      (client.sentIn s events) (s.run (Command.perform client) events) := by
  induction events generalizing s with
  | nil => exact Moves.refl credentials region serviceName s
  | cons event rest ih =>
    rw [Services.run_cons]
    cases event with
    | perform command =>
      obtain ⟨sent, hremote, hmoves⟩ := command.moves h
      rw [← Services.sentBetween_of_moves hmoves hremote] at hmoves
      exact Traffic.trans hmoves (ih (h.of_traffic hmoves))
    | advance seconds =>
      have hadvance := Services.traffic_advance credentials region serviceName s seconds
      exact hadvance.trans (ih (h.of_traffic hadvance))
    | updateSource index change =>
      have hupdate := Services.traffic_updateSource credentials region serviceName s index change
      exact hupdate.trans (ih (h.of_traffic hupdate))

/-- Take a client for a table, created for settings that ask for one, and any run of commands, of the
passing of time and of changes of the sources. One chain of credentials was made for the client. The clock
and that chain, and so how often each source has been asked, are those of a single chain that goes through
the script of the run; the chains that were made before remember what they did. What the uses in the script
give are the signatures of the requests, in order; each service received its own of these requests and no
others. Every signature is for the region of the settings, and for the table service or the service of the
settings, by where the request went. -/
theorem one_cache_for_both {around : Surroundings} {settings : Mapping}
    {begin after : Privileged Services} {client : Client}
    (hkind : Backend.ofSetting (settings.getText Setting.kind) = .ok .keyValue)
    (hcreate : create around settings begin = (.ok client, after))
    (events : List (Event Command)) :
    let region := settings.getText Setting.region
    let serviceName := settings.getText Setting.serviceName
    let lone : Services := { now := after.state.now, chains := [{ sources := around.sources }] }
    let script := client.scriptOf region serviceName after.state events
    let sent := client.sentIn after.state events
    let last := after.state.run (Command.perform client) events
    let loneLast := lone.run (Use.perform onlyCredentials) script
    (last.now = loneLast.now ∧ ∃ others, last.chains = others ++ loneLast.chains ∧
      others.map (·.memory) = begin.state.chains.map (·.memory)) ∧
    handedIn onlyCredentials lone script =
      sent.map (fun request => request.signature.map .signature) ∧
    (∀ remote, last.received remote =
      (sent.filter (·.remote = remote)).map (·.signature)) ∧
    ∀ request ∈ sent, ∀ signature, request.signature = some signature →
      signature.region = region ∧ signature.serviceName = match request.remote with
        | .table => .text "dynamodb"
        | .cluster => serviceName := by
  intro region serviceName lone script sent last loneLast
  have hsigned := signed_of_create hkind (.inr rfl) hcreate
  have htraffic := traffic_run hsigned.isWired events
  have hbeside : Alongside begin.state.chains after.state.cache lone := by
    rw [Services.cache, hsigned.newChain]
    exact .intro _ _ _ rfl
  obtain ⟨hhanded, hrun⟩ := hbeside.run script
  have hcache : last.cache =
      after.state.cache.run (Use.perform begin.state.nextCredentials) script := htraffic.cache_eq
  refine ⟨?_, hhanded.symm.trans htraffic.handed_eq, fun remote => ?_, ?_⟩
  · change Alongside _ (after.state.cache.run (Use.perform begin.state.nextCredentials) script) loneLast
      at hrun
    rw [← hcache] at hrun
    generalize hbefore : last.cache = found at hrun
    generalize loneLast = found' at hrun ⊢
    obtain ⟨now, others, chain, hothers⟩ := hrun
    have hnow : last.now = now := congrArg Services.now hbefore
    have hchains : last.chains = others ++ [chain] := congrArg Services.chains hbefore
    exact ⟨hnow, others, hchains, hothers⟩
  · rw [htraffic.received_eq, (hsigned.unasked hkind).2 remote, List.nil_append]
  · intro request hrequest signature hsignature
    obtain ⟨hregion, hservice⟩ := htraffic.signed_for request hrequest signature hsignature
    refine ⟨hregion, hservice.trans ?_⟩
    cases request.remote <;> rfl

/-- What a put loaded is renewed by a search, and a get is signed with what the search loaded. -/
theorem one_cache_for_both_renewed :
    let around : Surroundings := { sources := [{ method := "env", accessKey := some "old" }] }
    let settings : Mapping :=
      [(.text "metadata-type", .text "keyvalue"), (.text "endpoint", .text "https://h"),
        (.text "region", .text "eu-west-1"), (.text "service-name", .text "es")]
    let start := (create around settings ⟨false, {}⟩).2.state
    let events : List (Event Command) :=
      [.perform (.operate (.put ⟨.text "i", .text "d", .map [], .null⟩)), .advance 3000,
        .updateSource 0 fun source => { source with accessKey := some "new" },
        .perform (.search (.text "i") .null .null),
        .perform (.operate (.get (.text "i") (.text "d") .null))]
    ∃ client, (create around settings ⟨false, {}⟩).1 = .ok client ∧
      let last := start.run (Command.perform client) events
      let region : Value := .text "eu-west-1"
      last.loads = [[2]] ∧
      last.received .table = [some ⟨"old", none, region, .text "dynamodb"⟩,
        some ⟨"new", none, region, .text "dynamodb"⟩] ∧
      last.received .cluster = [some ⟨"new", none, region, .text "es"⟩] ∧
      handedIn onlyCredentials { now := start.now, chains := [{ sources := around.sources }] }
          (client.scriptOf region (.text "es") start events) =
        (client.sentIn start events).map fun request => request.signature.map .signature := by
  intro around settings start events
  let transport : Transport :=
    ⟨.text "https://h", ⟨.https, "h", 443⟩, .signing ⟨⟨0⟩⟩ (.text "eu-west-1") (.text "es"), none,
      20, true⟩
  let client : Client := ⟨.table (.text "eu-west-1") ⟨transport, .null⟩ .null, false⟩
  have hclient : (create around settings ⟨false, {}⟩).1 = .ok client := by decide +kernel
  have hcreate : create around settings ⟨false, {}⟩ =
      (.ok client, (create around settings ⟨false, {}⟩).2) := by
    generalize create around settings ⟨false, {}⟩ = outcome at hclient ⊢
    exact Prod.ext hclient rfl
  have hkind : Backend.ofSetting (Mapping.getText settings Setting.kind) = .ok .keyValue := by
    decide +kernel
  obtain ⟨-, hhanded, -⟩ := one_cache_for_both hkind hcreate events
  exact ⟨client, hclient, by decide +kernel, by decide +kernel, by decide +kernel, hhanded⟩

end Client
end Metastore
