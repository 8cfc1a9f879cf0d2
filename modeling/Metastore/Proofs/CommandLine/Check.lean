import Metastore.Proofs.Client.Release
import Metastore.Proofs.CommandLine.Asking
import Metastore.Proofs.CommandLine.Overrides
import Metastore.Proofs.Json.Canonical

/-!
# Checking settings

Checking creates the client that the settings in force describe, prints a line of JSON about what
became of it, and closes it. Whichever way it ends, every search cluster and every table service that was
connected to for it has been closed, once (`CommandLine.check_reports_creation`).
-/

namespace Metastore

open Credentials (ChainRef)
open Services (SameConnections Released LeftOpen)

/-- A table service that was connected to and closed once, and asked for nothing else. -/
def TableClient.closedOnce (region : Value) (chain : ChainRef) : TableClient :=
  { Services.tableClient region chain with
    service := { contents := [], calls := [⟨.close, none⟩] } }

namespace Services

variable {before s : Services}

/-- Whether everything that was connected to since before was closed, once. -/
structure ClosedAgain (before s : Services) : Prop where
  exists_clusters_eq : ∃ transports : List Transport,
    s.clusters = before.clusters ++ transports.map .closedOnce
  exists_tables_eq : ∃ built : List (Value × ChainRef),
    s.tables = before.tables ++ built.map fun (region, chain) => .closedOnce region chain

lemma Released.closedAgain (h : Released before s) : ClosedAgain before s :=
  ⟨h.exists_clusters_eq, [], by simpa using h.tables_eq⟩

lemma closeCluster_withCluster (s : Services) (transport : Transport) :
    closeCluster (s.withCluster transport) =
      (.ok (), (s.withCluster transport).givingUp transport) :=
  closeCluster_of_new rfl

/-- The services with the table service, which was reached for a region with a chain, closed. -/
def closingTable (s : Services) (region : Value) (chain : ChainRef) : Services :=
  { s with table := some (.closedOnce region chain) }

/-- A table service that was just connected to is closed once, and without fail. -/
lemma callTable_close_of_new {region : Value} {chain : ChainRef}
    (h : s.table = some (tableClient region chain)) :
    callTable .close s = (.ok .null, s.closingTable region chain) := by
  rw [callTable, h]
  rfl

end Services

namespace Client

open Services (ClosedAgain)

variable {opening : Setup ChainRef} {around : Surroundings} {kind : Value} {read : BackendSettings}
  {begin after : Privileged Services} {client : Client}

/-- A client that was just made is closed without fail, and then nothing is open. -/
lemma close_of_making (hopening : KeepsConnections opening)
    (h : Delegate.Making opening around kind read begin (.ok client.delegate, after)) :
    ∃ closed, client.close after.state = (.ok (), closed) ∧ ClosedAgain begin.state closed := by
  obtain ⟨delegate, multiTenancy⟩ := client
  cases h with
  | onCallerStore hbackend =>
    have hsame : SameConnections begin.state (begin.state.saying (localNotices kind)) := ⟨rfl, rfl⟩
    exact ⟨_, rfl, hsame.released.closedAgain⟩
  | remote transport notices hbackend hnotices htransport hbuilt =>
    have hsame : SameConnections begin.state (begin.state.saying notices) := ⟨rfl, rfl⟩
    exact ⟨_, Services.closeCluster_withCluster _ transport, hsame.released_givingUp.closedAgain⟩
  | cloud chain transport between hbackend hsearching =>
    obtain ⟨message, hopened⟩ := hsearching.opened
    have hsame := hopening.sameConnections hopened
    exact ⟨_, Services.closeCluster_withCluster _ transport, hsame.released_givingUp.closedAgain⟩
  | keyValue chain transport between hbackend hsearching =>
    obtain ⟨message, hopened⟩ := hsearching.opened
    have hsame := hopening.sameConnections hopened
    let connected := (between.state.withCluster transport).withTable
      (Services.tableClient read.region chain)
    let closed := (connected.closingTable read.region chain).givingUp transport
    have htable : Services.callTable .close connected =
        (.ok .null, connected.closingTable read.region chain) := Services.callTable_close_of_new rfl
    have hcluster : Services.closeCluster (connected.closingTable read.region chain) =
        (.ok (), closed) := Services.closeCluster_of_new rfl
    refine ⟨closed, ?_, hsame.released_givingUp.exists_clusters_eq, [(read.region, chain)], ?_⟩
    · change Delegate.close _ connected = _
      simp only [Delegate.close, htable, hcluster]
      rfl
    · exact congrArg (· ++ [.closedOnce read.region chain]) hsame.tables_eq

/-- An action that succeeds, with a client that is closed without fail, succeeds. -/
lemma during_of_ok {α : Type} {action : Action Services Failure α} {s between closed : Services}
    {a : α} (haction : action s = (.ok a, between)) (hclose : client.close between = (.ok (), closed)) :
    client.during action s = (.ok a, closed) := by
  rw [during, haction]
  dsimp only
  rw [hclose]

lemma UsesField.tenantField_eq {field : Value} (h : client.UsesField field) :
    client.tenantField = field := by
  obtain ⟨delegate, multiTenancy⟩ := client
  cases delegate with
  | callerStore registry own => exact h
  | cluster backend => exact h
  | table region search own => exact h.1

end Client

namespace CommandLine

open Services (ClosedAgain)

variable {around : Surroundings} {settings : Mapping} {begin after : Privileged Services}

/-! ### Lines -/

/-- Whether a text is a line of JSON from which a value is read. -/
def IsLineFor (v : Value) (text : String) : Prop :=
  ∃ line, text = line ++ "\n" ∧ Json.decode line = .ok v

/-- What is read from the line about a client. -/
def clientReport (client : Client) : Value :=
  .map [(.text "ok", .bool true), (.text "kind", .text client.kind.name),
    (.text "multi_tenancy", .bool client.multiTenancy),
    (.text "tenant_id_field", client.tenantField)]

/-- What is read from the line about settings that are refused. -/
def refusalReport (message : String) : Value :=
  .map [(.text "ok", .bool false), (.text "error", .text message)]

/-- A report on plain data is printed as a line from which it can be read. -/
lemma exists_print (report : Report) (h : report.toValue.Plain) :
    ∃ text, report.print = .ok ⟨text, report.status?⟩ ∧
      IsLineFor (report.style.shown report.toValue) text := by
  obtain ⟨line, hencode, hdecode⟩ := Json.decode_encode report.style h
  refine ⟨line ++ "\n", ?_, line, rfl, hdecode⟩
  rw [Report.print, Report.text, hencode]
  rfl

lemma plain_clientReport {client : Client} (h : client.tenantField.Plain) :
    (clientReport client).Plain := by
  refine .map ?_ ?_ ?_
  · simp
  · simp [Value.Plain.bool, Value.Plain.text, h]
  · simp

lemma plain_refusalReport (message : String) : (refusalReport message).Plain := by
  refine .map ?_ ?_ ?_
  · simp
  · simp [Value.Plain.bool, Value.Plain.text]
  · simp

/-! ### Checking -/

/-- The ways in which a check can end: with a line about the client, with a line about the problem that the
library words, and with any other problem. -/
inductive Checking (around : Surroundings) (settings : Mapping) (begin : Privileged Services) :
    Except Ending Printed × Privileged Services → Prop
  | created (client : Client) (after : Privileged Services) (closed : Services) (text : String)
      (hcreate : Client.create around settings begin = (.ok client, after))
      (hline : IsLineFor (clientReport client) text) (hclosed : ClosedAgain begin.state closed) :
      Checking around settings begin (.ok ⟨text, some 0⟩, { after with state := closed })
  | refused (problem : Problem) (message : String) (after : Privileged Services) (text : String)
      (hcreate : Client.create around settings begin = (.error problem, after))
      (hmessage : problem.message? = some message)
      (hline : IsLineFor (refusalReport message) text) :
      Checking around settings begin (.ok ⟨text, some 2⟩, after)
  | failed (problem : Problem) (after : Privileged Services)
      (hcreate : Client.create around settings begin = (.error problem, after))
      (hmessage : problem.message? = none) :
      Checking around settings begin (.error (.failed problem), after)

lemma checking_check (around : Surroundings) (hsettings : AreSettings settings)
    (begin : Privileged Services) :
    Checking around settings begin
      ((check around settings >>= fun report => (liftM report.print : Run Printed)) begin) := by
  rw [Action.bind_apply, check]
  rcases hcreate : Client.create around settings begin with ⟨problem | client, after⟩
  · dsimp only
    cases hmessage : problem.message? with
    | none => exact .failed problem after hcreate hmessage
    | some message =>
      obtain ⟨text, hprint, hline⟩ := exists_print (.refused message)
        (plain_refusalReport message)
      dsimp only
      rw [Action.lift_apply, hprint]
      exact .refused problem message after text hcreate hmessage hline
  · obtain ⟨read, -, hmaking, -⟩ := Client.making_of_createOpening hcreate
    obtain ⟨closed, hclose, hclosed⟩ :=
      Client.close_of_making (Client.keepsConnections_takeChain _) hmaking
    have hduring : client.during (return Report.ofClient client) after.state =
        (.ok (.ofClient client), closed) := Client.during_of_ok rfl hclose
    have hplain : client.tenantField.Plain := by
      rw [(Client.asSet_of_createOpening hcreate).usesField.tenantField_eq]
      exact hsettings.plain_getText Setting.tenantField
    obtain ⟨text, hprint, hline⟩ := exists_print (.ofClient client)
      (plain_clientReport hplain)
    dsimp only
    rw [hduring]
    dsimp only [Except.mapError]
    rw [Action.lift_apply, hprint]
    exact .created client after closed text hcreate hline hclosed

/-- What is promised of a check. It returns the status of success and tells of the client exactly if
that is created, returns the status of a refusal with the message exactly if the problem is one that the
library words itself, and lets any other problem through. Whatever was connected to has been closed, once;
only a request to stop that comes while the client of a table service is built leaves a search cluster
open. -/
structure Checks (around : Surroundings) (settings : Mapping) (begin : Privileged Services)
    (outcome : Except Ending Printed × Privileged Services) : Prop where
  created_iff : (∃ text, outcome.1 = .ok ⟨text, some 0⟩) ↔
    ∃ client, (Client.create around settings begin).1 = .ok client
  refused_iff : (∃ text, outcome.1 = .ok ⟨text, some 2⟩) ↔
    ∃ problem, (Client.create around settings begin).1 = .error problem ∧ problem.isOwn = true
  failed_iff : ∀ ending, outcome.1 = .error ending ↔
    ∃ problem, (Client.create around settings begin).1 = .error problem ∧ problem.isOwn = false ∧
      ending = .failed problem
  line_of_created : ∀ client printed, (Client.create around settings begin).1 = .ok client →
    outcome.1 = .ok printed → IsLineFor (clientReport client) printed.text
  line_of_refused : ∀ problem message printed,
    (Client.create around settings begin).1 = .error problem → problem.message? = some message →
      outcome.1 = .ok printed → IsLineFor (refusalReport message) printed.text
  closedAgain : (Client.create around settings begin).1 ≠ .error .interrupted →
    ClosedAgain begin.state outcome.2.state
  sameConnections_or_leftOpen : (Client.create around settings begin).1 = .error .interrupted →
    SameConnections begin.state outcome.2.state ∨
      around.buildTable (settings.getText Setting.region) = .error .interrupted ∧
        LeftOpen begin.state outcome.2.state

/-- Whatever fails, what was connected to has been closed. -/
lemma closedAgain_of_error {problem : Problem}
    (hcreate : Client.create around settings begin = (.error problem, after))
    (hne : (Client.create around settings begin).1 ≠ .error .interrupted) :
    ClosedAgain begin.state after.state := by
  have hleaves := Client.leaves_of_createOpening (Client.keepsConnections_takeChain _) hcreate
  refine (hleaves.released fun heq => hne ?_).closedAgain
  rw [hcreate, heq]

lemma sameConnections_or_leftOpen_of_error {problem : Problem}
    (hcreate : Client.create around settings begin = (.error problem, after))
    (hinterrupted : (Client.create around settings begin).1 = .error .interrupted) :
    SameConnections begin.state after.state ∨
      around.buildTable (settings.getText Setting.region) = .error .interrupted ∧
        LeftOpen begin.state after.state := by
  rw [hcreate] at hinterrupted
  obtain rfl := Except.error.inj hinterrupted
  have hleaves := Client.leaves_of_createOpening (Client.keepsConnections_takeChain _) hcreate
  exact hleaves.sameConnections_or_leftOpen

lemma Checking.checks {outcome : Except Ending Printed × Privileged Services}
    (h : Checking around settings begin outcome) : Checks around settings begin outcome := by
  cases h with
  | created client after closed text hcreate hline hclosed =>
    have hcreated : (Client.create around settings begin).1 = .ok client := by rw [hcreate]
    refine ⟨?_, ?_, ?_, ?_, ?_, fun _ => hclosed, fun hinterrupted => ?_⟩
    · simp [hcreated]
    · simp [hcreated]
    · simp [hcreated]
    · rintro other printed hother ⟨⟩
      obtain rfl := Except.ok.inj (hcreated.symm.trans hother)
      exact hline
    · intro problem message printed hproblem
      cases hcreated.symm.trans hproblem
    · cases hcreated.symm.trans hinterrupted
  | refused problem message after text hcreate hmessage hline =>
    have hcreated : (Client.create around settings begin).1 = .error problem := by rw [hcreate]
    have hown : problem.isOwn = true := by rw [Problem.isOwn, hmessage]; rfl
    refine ⟨?_, ?_, ?_, ?_, ?_, closedAgain_of_error hcreate,
      sameConnections_or_leftOpen_of_error hcreate⟩
    · simp [hcreated]
    · simp [hcreated, hown]
    · simp [hcreated, hown]
    · intro client printed hclient
      cases hcreated.symm.trans hclient
    · rintro other otherMessage printed hother hotherMessage ⟨⟩
      obtain rfl := Except.error.inj (hcreated.symm.trans hother)
      obtain rfl := Option.some.inj (hmessage.symm.trans hotherMessage)
      exact hline
  | failed problem after hcreate hmessage =>
    have hcreated : (Client.create around settings begin).1 = .error problem := by rw [hcreate]
    have hown : problem.isOwn = false := by rw [Problem.isOwn, hmessage]; rfl
    refine ⟨?_, ?_, fun ending => ⟨?_, ?_⟩, ?_, ?_, closedAgain_of_error hcreate,
      sameConnections_or_leftOpen_of_error hcreate⟩
    · simp [hcreated]
    · simp [hcreated, hown]
    · rintro ⟨⟩
      exact ⟨problem, hcreated, hown, rfl⟩
    · rintro ⟨other, hother, -, rfl⟩
      obtain rfl := Except.error.inj (hcreated.symm.trans hother)
      rfl
    · intro client printed hclient
      cases hcreated.symm.trans hclient
    · rintro other message printed - - ⟨⟩

/-! ### Commands -/

variable {current : Config} {invocation : Invocation} {words : List String}

/-- Does what an invocation asks for, and prints the report. -/
def performAndPrint (around : Surroundings) (current : Config) (invocation : Invocation) :
    Run Printed := do
  let report ← perform around current invocation
  report.print

/-- A command line that can be read is carried out. -/
lemma run_of_read (h : Invocation.read words = .ok invocation) (begin : Privileged Services) :
    run around current words begin = performAndPrint around current invocation begin := by
  refine Action.bind_of_ok (a := invocation) ?_ _
  rw [Action.lift_apply, h]
  rfl

/-- The settings that a command works on are those of the configuration with the changes made to them. -/
lemma settingsFor_of_ok {files : Files} {env : Environment} {base : Mapping}
    (h : (configFor files env current invocation.config).bind Config.settings = .ok base) :
    settingsFor files env current invocation = invocation.overrides.foldlM override base := by
  rw [settingsFor, h]
  rfl

lemma settingsFor_of_error {files : Files} {env : Environment} {problem : Problem}
    (h : (configFor files env current invocation.config).bind Config.settings = .error problem) :
    settingsFor files env current invocation = .error (.failed problem) := by
  rw [settingsFor, h]
  rfl

/-- A command without settings to work on does nothing. -/
lemma performAndPrint_of_error {ending : Ending}
    (h : settingsFor around.files around.env current invocation = .error ending)
    (begin : Privileged Services) :
    performAndPrint around current invocation begin = (.error ending, begin) :=
  Action.bind_of_error (Action.bind_of_error (by rw [Action.lift_apply, h]) _) _

lemma perform_of_ok (h : settingsFor around.files around.env current invocation = .ok settings)
    (begin : Privileged Services) :
    perform around current invocation begin = match invocation.command with
      | .check => check around settings begin
      | .showConfig => (.ok (.settings settings), begin) := by
  rw [perform, Action.bind_of_ok (by rw [Action.lift_apply, h])]
  cases invocation.command <;> rfl

lemma checking_performAndPrint (hcommand : invocation.command = .check)
    (h : settingsFor around.files around.env current invocation = .ok settings)
    (hsettings : AreSettings settings) (begin : Privileged Services) :
    Checking around settings begin (performAndPrint around current invocation begin) := by
  have hchecking := checking_check around hsettings begin
  rw [Action.bind_apply] at hchecking
  rw [performAndPrint, Action.bind_apply, perform_of_ok h, hcommand]
  exact hchecking

/-- What is shown is a line for the settings, sorted by name. -/
lemma exists_shown (hcommand : invocation.command = .showConfig)
    (h : settingsFor around.files around.env current invocation = .ok settings)
    (hsettings : AreSettings settings) (begin : Privileged Services) :
    ∃ text, performAndPrint around current invocation begin = (.ok ⟨text, none⟩, begin) ∧
      IsLineFor (Value.map settings).sorted text := by
  obtain ⟨text, hprint, hline⟩ := exists_print (.settings settings) hsettings.plain
  refine ⟨text, ?_, hline⟩
  rw [performAndPrint, Action.bind_apply, perform_of_ok h, hcommand]
  dsimp only
  rw [Action.lift_apply, hprint]
  rfl

/-- A check and a command that shows the configuration can be asked for with any configuration and any texts
as changes. Take the command lines of both, with the same ones. If the configuration gives no settings, the
check fails; if a text is no change, the first such text ends it; in both cases nothing was done. Otherwise
the settings in force are those of the configuration with the changes laid over them. A line of JSON for
exactly these is what is shown, and the check tells in a line of JSON what creating a client for them comes
to, and leaves nothing open. -/
theorem check_reports_creation (around : Surroundings) (current : Config) (path : Option String)
    (texts : List String) (begin : Privileged Services) :
    (∀ command, ∃ words, Invocation.read words = .ok ⟨path, command, texts⟩) ∧
    ∀ checkWords showWords, Invocation.read checkWords = .ok ⟨path, .check, texts⟩ →
      Invocation.read showWords = .ok ⟨path, .showConfig, texts⟩ →
      let given := (configFor around.files around.env current path).bind Config.settings
      let checked := run around current checkWords begin
      (∀ problem, given = .error problem → checked = (.error (.failed problem), begin)) ∧
      ∀ base, given = .ok base →
        ((∃ text ∈ texts, ¬ IsChange text) → ∃ before text rest, texts = before ++ text :: rest ∧
          (∀ change ∈ before, IsChange change) ∧ ¬ IsChange text ∧
            checked = (.error (.badOverride text), begin)) ∧
        ((∀ text ∈ texts, IsChange text) → ∃ settings, Overlaid base texts settings ∧
          (∃ shown, run around current showWords begin = (.ok ⟨shown, none⟩, begin) ∧
            IsLineFor (Value.map settings).sorted shown) ∧
          Checks around settings begin checked) := by
  refine ⟨fun command => exists_read _, ?_⟩
  intro checkWords showWords hcheck hshow given checked
  have hchecked : checked = performAndPrint around current ⟨path, .check, texts⟩ begin :=
    run_of_read hcheck begin
  rw [hchecked, run_of_read hshow]
  refine ⟨fun problem hproblem => ?_, fun base hbase => ⟨fun hbad => ?_, fun hall => ?_⟩⟩
  · exact performAndPrint_of_error (settingsFor_of_error hproblem) begin
  · obtain ⟨before, text, rest, htexts, hbefore, hnot, hfold⟩ :=
      foldlM_override_of_not_isChange base hbad
    refine ⟨before, text, rest, htexts, hbefore, hnot, performAndPrint_of_error ?_ begin⟩
    exact (settingsFor_of_ok hbase).trans hfold
  · have hsettings : AreSettings base := by
      obtain ⟨config, -, hconfig⟩ := except_bind_eq_ok.mp hbase
      exact areSettings_of_settings hconfig
    obtain ⟨settings, hfold, hoverlaid⟩ := overlaid_foldlM hsettings hall
    have hinForce (command : Command) :
        settingsFor around.files around.env current ⟨path, command, texts⟩ = .ok settings :=
      (settingsFor_of_ok hbase).trans hfold
    exact ⟨settings, hoverlaid,
      exists_shown rfl (hinForce .showConfig) hoverlaid.toAreSettings begin,
      (checking_performAndPrint rfl (hinForce .check) hoverlaid.toAreSettings begin).checks⟩

/-- Changes turn the settings of a search cluster into those of a table service beside it. Of the two
changes for the region the last one counts, though it is written with blanks around its name. With the
first change alone, the region is missing. -/
theorem check_reports_creation_of_table :
    let current : Config := ⟨[(.text "metadata", .map [(.text "endpoint", .text "http://a")])]⟩
    let words : List String := ["--set", "metadata-type=keyvalue", "--set", "region=eu_west",
      "--set", "endpoint=https://h", "--set", "service-name=es", "--set", "tenant-id-field=mündel",
      "--set", " region =eu-west-1"]
    let shown := run {} current ("show-config" :: words) ⟨false, {}⟩
    let checked := run {} current ("check" :: words) ⟨false, {}⟩
    shown.1 = .ok ⟨"\x7b\"endpoint\": \"https://h\", \"metadata-type\": \"keyvalue\", " ++
      "\"region\": \"eu-west-1\", \"service-name\": \"es\", " ++
      "\"tenant-id-field\": \"mündel\"\x7d\n", none⟩ ∧
    checked.1 = .ok ⟨"\x7b\"ok\": true, \"kind\": \"key_value\", \"multi_tenancy\": false, " ++
      "\"tenant_id_field\": \"mündel\"\x7d\n", some 0⟩ ∧
    ClosedAgain {} checked.2.state ∧ checked.2.state.clusterCloses = [1] ∧
      checked.2.state.tableCloses = [1] ∧
    (run {} current ("check" :: words.take 2) ⟨false, {}⟩).1 = .ok ⟨"\x7b\"ok\": false, " ++
      "\"error\": \"keyvalue client requires a metadata endpoint and region.\"\x7d\n", some 2⟩ := by
  intro current words shown checked
  let texts : List String := ["metadata-type=keyvalue", "region=eu_west", "endpoint=https://h",
    "service-name=es", "tenant-id-field=mündel", " region =eu-west-1"]
  let settings : Mapping := [(.text "endpoint", .text "https://h"),
    (.text "metadata-type", .text "keyvalue"), (.text "region", .text "eu-west-1"),
    (.text "service-name", .text "es"), (.text "tenant-id-field", .text "mündel")]
  have hcheck : Invocation.read ("check" :: words) = .ok ⟨none, .check, texts⟩ := by decide +kernel
  have hshow : Invocation.read ("show-config" :: words) = .ok ⟨none, .showConfig, texts⟩ := by
    decide +kernel
  have hinForce : settingsFor [] [] current ⟨none, .showConfig, texts⟩ = .ok settings := by
    decide +kernel
  have hplain : (Value.map settings).Plain :=
    .map (by simp [settings]) (by simp [settings, Value.Plain.text]) (by decide)
  have hencode : Json.encode ⟨false, true⟩ (.map settings) = .ok ("\x7b\"endpoint\": " ++
      "\"https://h\", \"metadata-type\": \"keyvalue\", \"region\": \"eu-west-1\", " ++
      "\"service-name\": \"es\", \"tenant-id-field\": \"mündel\"\x7d") := by
    rw [Json.encode_of_ordered hplain (by decide +kernel)]
    decide +kernel
  have hshown : shown = performAndPrint {} current ⟨none, .showConfig, texts⟩ ⟨false, {}⟩ :=
    run_of_read hshow ⟨false, {}⟩
  have hchecked : checked.1 = .ok ⟨"\x7b\"ok\": true, \"kind\": \"key_value\", " ++
      "\"multi_tenancy\": false, \"tenant_id_field\": \"mündel\"\x7d\n", some 0⟩ := by
    decide +kernel
  have hgiven : (configFor [] [] current none).bind Config.settings =
      .ok [(.text "endpoint", .text "http://a")] := by decide +kernel
  have hall : ∀ text ∈ texts, IsChange text := by
    simp only [IsChange]
    decide
  obtain ⟨inForce, -, -, hchecks⟩ :=
    (((check_reports_creation {} current none texts ⟨false, {}⟩).2 _ _ hcheck hshow).2 _ hgiven).2
      hall
  have hclosed : ClosedAgain {} checked.2.state := by
    obtain ⟨client, hclient⟩ := hchecks.created_iff.mp ⟨_, hchecked⟩
    refine hchecks.closedAgain ?_
    rw [hclient]
    intro heq
    cases heq
  refine ⟨?_, hchecked, hclosed, by decide +kernel, by decide +kernel, by decide +kernel⟩
  rw [hshown, performAndPrint, Action.bind_apply, perform_of_ok hinForce]
  dsimp only
  rw [Action.lift_apply, Report.print, Report.text, Report.style, Report.toValue, hencode]
  rfl

end CommandLine
end Metastore
