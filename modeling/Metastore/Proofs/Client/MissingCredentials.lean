import Metastore.Proofs.Client.Refusals
import Metastore.Proofs.Client.SharedCache

/-!
# Missing credentials

Creating a client asks no source of credentials, and so cannot fail for want of them. A source is
asked only by commands for documents, and where nothing is cached and no source has anything, such a
command fails with the credential problem (`Client.missing_on_first_request`).
-/

namespace Metastore.Client

open Credentials (Chain Deferred)
open Services (HasNewChain)

variable {client : Client} {credentials : Deferred} {region serviceName : Value} {s : Services}

/-- A source of any chain is asked by commands for documents only. -/
lemma loads_step (h : client.IsWired credentials region serviceName s) {event : Event Command}
    (hasked : (s.step (Command.perform client) event).loads ≠ s.loads) :
    ∃ command, event = .perform command ∧ command.IsForDocuments := by
  cases event with
  | perform command =>
    refine ⟨command, rfl, Classical.byContradiction fun hnot => hasked ?_⟩
    have hloads : (command.perform client s).cache.loads = s.cache.loads :=
      congrArg Services.loads (command.moves_of_not h hnot).cache_eq
    exact hloads
  | advance seconds => exact absurd rfl hasked
  | updateSource index change =>
    refine absurd ?_ hasked
    rw [Services.step, Services.loads, List.map_map]
    exact List.map_congr_left fun chain _ => chain.loads_updateSource index change

/-- What is promised of a command for documents where nothing is cached and no source has
credentials. -/
structure Command.FailsWithout (command : Command) (chain : Chain) (field : Value) (s : Services)
    (outcome : Except Failure Value × Services) : Prop where
  contents_eq : outcome.2.contents = s.contents
  fails_if_sent : (∃ remote, outcome.2.received remote ≠ s.received remote) →
    ∃ failure, outcome.1 = .error failure ∧ failure.problem = .auth (.noSource chain.methods) ∧
      failure.problem.message? = some ("unable to resolve credentials from any source (" ++
        ", ".intercalate chain.methods ++ ")")
  sent_if_sendable : command.IsSendable → field.isKey = true →
    ∃ remote, outcome.2.received remote ≠ s.received remote

lemma Command.failsWithout {chain : Chain} {field : Value}
    (hwired : client.IsWired credentials region serviceName s) (huses : client.UsesField field)
    (hchain : s.chainOf? credentials = some chain) (h : chain.IsBarren) {command : Command}
    (hdocuments : command.IsForDocuments) :
    command.FailsWithout chain field s (command.run client s) := by
  have hcases := command.unsent_or_lacks hwired hchain h hdocuments.ne_close
  refine ⟨?_, ?_, fun hsendable hfield => ?_⟩
  · rcases hcases with hsame | ⟨refusal, -, hrefused⟩
    · exact congrArg Services.contents hsame
    · exact hrefused.contents_eq
  · rintro ⟨remote, hreceived⟩
    rcases hcases with hsame | ⟨refusal, hproblem, hrefused⟩
    · exact absurd (congrArg (Services.received · remote) hsame) hreceived
    · refine ⟨refusal, hrefused.result_eq, hproblem, ?_⟩
      rw [hproblem]
      rfl
  · obtain ⟨refusal, -, hrefused⟩ :=
      command.lacks_of_sendable hwired hchain h huses hfield hdocuments hsendable
    exact hrefused.asked

/-- Take settings that ask for a client of a managed service, and any way of building clients of table
services that does not itself fail for want of credentials. Creating the client makes one chain of
credentials at most, whose sources are not asked, and asks no source of the chains that are there; if it
fails, then not for want of credentials. In every run of the client that is created, a source of any chain
is asked by commands for documents only. Where nothing is cached and no source has credentials, such a
command changes nothing that is stored; if it sends a request, it fails with the credential problem, which
names the ways in which the sources were asked; and it does send one if it can be sent at all. -/
theorem missing_on_first_request {around : Surroundings} {settings : Mapping}
    (hkind : Backend.ofSetting (settings.getText Setting.kind) = .ok .cloud ∨
      Backend.ofSetting (settings.getText Setting.kind) = .ok .keyValue)
    (hbuild : ∀ region problem, around.buildTable region = .error problem → problem.isAuth = false)
    (begin : Privileged Services) :
    let outcome := create around settings begin
    (∀ problem, outcome.1 = .error problem → problem.isAuth = false ∧
      (outcome.2.state.chains = begin.state.chains ∨
        outcome.2.state.chains = begin.state.chains ++ [{ sources := around.sources }])) ∧
    ∀ client, outcome.1 = .ok client →
      outcome.2.state.chains = begin.state.chains ++ [{ sources := around.sources }] ∧
      ∀ events : List (Event Command),
        let s := outcome.2.state.run (Command.perform client) events
        (∀ event, (s.step (Command.perform client) event).loads ≠ s.loads →
          ∃ command, event = .perform command ∧ command.IsForDocuments) ∧
        ∃ chain, s.chainOf? begin.state.nextCredentials = some chain ∧
          (chain.cached = none → (∀ source ∈ chain.sources, source.answer = .ok none) →
            ∀ command : Command, command.IsForDocuments →
              command.FailsWithout chain (settings.getText Setting.tenantField) s
                (command.run client s)) := by
  obtain ⟨backend, hbackend, hsigned⟩ :
      ∃ backend, Backend.ofSetting (settings.getText Setting.kind) = .ok backend ∧ backend.IsSigned :=
    hkind.elim (fun h => ⟨_, h, .inl rfl⟩) fun h => ⟨_, h, .inr rfl⟩
  cases hcreate : create around settings begin with
  | mk result after =>
    refine ⟨?_, ?_⟩
    · rintro problem rfl
      obtain ⟨hauth, hchains⟩ := failedUnused_of_create hbackend hsigned hbuild hcreate
      exact ⟨hauth, hchains⟩
    · rintro client rfl
      have hclient := signed_of_create hbackend hsigned hcreate
      refine ⟨hclient.newChain, fun events => ?_⟩
      have htraffic := traffic_run hclient.isWired events
      have hwired := hclient.isWired.of_traffic htraffic
      have hstart : after.state.cache.chainOf? begin.state.nextCredentials =
          some { sources := around.sources } := hclient.newChain.chainOf?_eq
      obtain ⟨chain, hchain, -⟩ := Credentials.cacheLoaded_run hstart
        (client.scriptOf _ _ after.state events)
      rw [← htraffic.cache_eq] at hchain
      refine ⟨fun event => loads_step hwired, chain, hchain, ?_⟩
      intro hcached hsilent command hdocuments
      exact command.failsWithout hwired hclient.usesField hchain ⟨hcached, hsilent⟩ hdocuments

/-- A client whose two sources have nothing is created; an empty list asks neither of them, and a put
and a search name both. -/
theorem missing_on_first_request_of_two :
    let around : Surroundings := { sources := [{ method := "env" }, { method := "iam-role" }] }
    let settings : Mapping :=
      [(.text "metadata-type", .text "keyvalue"), (.text "endpoint", .text "https://h"),
        (.text "region", .text "eu-west-1"), (.text "service-name", .text "es")]
    let events : List (Event Command) :=
      [.perform (.operate (.bulk (.text "i") (.list []) .null))]
    let put : Command := .operate (.put ⟨.text "i", .text "d", .map [], .null⟩)
    let search : Command := .search (.text "i") .null .null
    ∃ client, (create around settings ⟨false, {}⟩).1 = .ok client ∧
      let s := (create around settings ⟨false, {}⟩).2.state.run (Command.perform client) events
      s.loads = [[0, 0]] ∧ (put.perform client s).loads = [[1, 1]] ∧
      ∀ command ∈ [put, search], ((command.run client s).2.contents = s.contents ∧
        ∃ failure, (command.run client s).1 = .error failure ∧ failure.problem.message? =
          some "unable to resolve credentials from any source (env, iam-role)") := by
  intro around settings events put search
  let transport : Transport :=
    ⟨.text "https://h", ⟨.https, "h", 443⟩, .signing ⟨⟨0⟩⟩ (.text "eu-west-1") (.text "es"), none,
      20, true⟩
  let client : Client := ⟨.table (.text "eu-west-1") ⟨transport, .null⟩ .null, false⟩
  have hclient : (create around settings ⟨false, {}⟩).1 = .ok client := by decide +kernel
  have hkind : Backend.ofSetting (Mapping.getText settings Setting.kind) = .ok .keyValue := by
    decide +kernel
  have hbuild : ∀ region problem, around.buildTable region = .error problem →
      problem.isAuth = false := by
    rintro region problem ⟨⟩
  have hfield : (Mapping.getText settings Setting.tenantField).isKey = true := by decide +kernel
  obtain ⟨-, hcreated⟩ := missing_on_first_request (.inr hkind) hbuild ⟨false, {}⟩
  obtain ⟨hnew, hrun⟩ := hcreated client hclient
  obtain ⟨-, chain, hchain, hfails⟩ := hrun events
  have hsame : (create around settings ⟨false, {}⟩).2.state.run (Command.perform client) events =
      (create around settings ⟨false, {}⟩).2.state :=
    bulk_unchanged (fun first rest h => by cases h) _
  rw [hsame, HasNewChain.chainOf?_eq hnew] at hchain
  obtain rfl := Option.some.inj hchain
  refine ⟨client, hclient, by decide +kernel, by decide +kernel, ?_⟩
  have hsilent : ∀ source ∈ around.sources, source.answer = .ok none := by decide
  have hempty : Value.Plain (.map []) := .map (by simp) (by simp) (by simp)
  intro command hcommand
  have hfits : command.IsForDocuments ∧ command.IsSendable := by
    rcases List.mem_cons.mp hcommand with rfl | hsearch
    · exact ⟨trivial, trivial, ⟨⟨[], rfl⟩, hempty⟩, trivial⟩
    · obtain rfl := List.mem_singleton.mp hsearch
      exact ⟨trivial, .inl rfl⟩
  have hfailed := hfails rfl hsilent command hfits.1
  obtain ⟨failure, hresult, -, hmessage⟩ :=
    hfailed.fails_if_sent (hfailed.sent_if_sendable hfits.2 hfield)
  exact ⟨hfailed.contents_eq, failure, hresult, hmessage⟩

end Metastore.Client
