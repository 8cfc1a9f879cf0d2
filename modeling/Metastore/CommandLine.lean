import Metastore.Client.Creation
import Metastore.CommandLine.Invocation
import Metastore.Config.Load
import Metastore.Json.Writer

/-!
# The command line

What the commands do. Both work on the settings of the configuration with the changes that were asked for.
One shows them; the other creates the client that they describe, reports on it and closes it. A client that
cannot be created because of its settings is a report too, any other problem ends the command. A report is
printed as a line of JSON.
-/

namespace Metastore.CommandLine

/-- Why a command ends without a report. -/
inductive Ending where
  /-- The words are not acted on. -/
  | stopped (stop : Stop)
  /-- A change of a setting has no equals sign. -/
  | badOverride (text : String)
  | failed (problem : Problem)
deriving DecidableEq, Repr

/-- The words for a change that has no equals sign. -/
def badOverrideMessage (text : String) : String :=
  settingOption ++ " expects key=value, got " ++ Text.quote text

/-! ### Settings -/

/-- The settings after a change, which is split at its first equals sign. The name of the setting is trimmed,
its value is not. -/
def override (settings : Mapping) (text : String) : Except Ending Mapping :=
  match Text.cutAt '=' text.toList with
  | (key, some value) =>
    .ok (settings.setText (String.ofList (Text.trimBy Text.isBlank key)) (.text (String.ofList value)))
  | (_, none) => .error (.badOverride text)

/-- The configuration that an invocation works on: the one it names, or the current one. -/
def configFor (files : Files) (env : Environment) (current : Config) (path : Option String) :
    Except Problem Config :=
  match path with
  | some path => if path.isEmpty then .ok current else Config.load files env path
  | none => .ok current

/-- The settings that an invocation works on. -/
def settingsFor (files : Files) (env : Environment) (current : Config) (invocation : Invocation) :
    Except Ending Mapping := do
  let settings ← ((configFor files env current invocation.config).bind Config.settings).mapError .failed
  invocation.overrides.foldlM override settings

/-! ### Reports -/

/-- What a command reports. -/
inductive Report where
  | settings (inForce : Mapping)
  /-- The client was created. -/
  | created (kind : DelegateKind) (multiTenancy : Bool) (tenantField : Value)
  /-- The settings do not describe a client. -/
  | refused (message : String)
deriving DecidableEq, Repr

namespace Report

/-- The report on a client. -/
def ofClient (client : Client) : Report := .created client.kind client.multiTenancy client.tenantField

/-- A report as a value. -/
def toValue : Report → Value
  | settings inForce => .map inForce
  | created kind multiTenancy tenantField =>
    .map [(.text "ok", .bool true), (.text "kind", .text kind.name),
      (.text "multi_tenancy", .bool multiTenancy), (.text "tenant_id_field", tenantField)]
  | refused message => .map [(.text "ok", .bool false), (.text "error", .text message)]

/-- How a report is written: settings are sorted by name. -/
def style : Report → Json.Style
  | settings _ => { asciiOnly := false, sortKeys := true }
  | _ => { asciiOnly := false, sortKeys := false }

/-- The line that a report is printed as. -/
def text (report : Report) : Except Problem String :=
  (Json.encode report.style report.toValue).map (· ++ "\n")

/-- The exit status that tells that settings do not describe a client. -/
def refusedStatus : Nat := 2

/-- The exit status that a command with a report returns. Showing settings returns none. -/
def status? : Report → Option Nat
  | settings _ => none
  | created .. => some 0
  | refused _ => some refusedStatus

end Report

/-- What a command leaves to whoever ran it: the text that it prints, and the exit status that it returns, if it
returns one. -/
structure Printed where
  text : String
  status? : Option Nat
deriving DecidableEq, Repr

/-- Prints a report. -/
def Report.print (report : Report) : Except Ending Printed :=
  (report.text.map fun text => ⟨text, report.status?⟩).mapError .failed

/-! ### Commands -/

/-- What a command does to the services it connects to. -/
abbrev Run := Action (Privileged Services) Ending

/-- Reports on the client that settings describe and closes it. -/
def check (around : Surroundings) (settings : Mapping) : Run Report := fun s =>
  match Client.create around settings s with
  | (.error problem, s) =>
    match problem.message? with
    | some message => (.ok (.refused message), s)
    | none => (.error (.failed problem), s)
  | (.ok client, s) =>
    let (result, state) := client.during (return Report.ofClient client) s.state
    (result.mapError fun f => .failed f.problem, { s with state })

/-- Does what an invocation asks for. -/
def perform (around : Surroundings) (current : Config) (invocation : Invocation) : Run Report := do
  let settings ← settingsFor around.files around.env current invocation
  match invocation.command with
  | .check => check around settings
  | .showConfig => return .settings settings

/-- Does what the words of a command line ask for, and prints the report. -/
def run (around : Surroundings) (current : Config) (words : List String) : Run Printed := do
  let invocation ← (Invocation.read words).mapError Ending.stopped
  let report ← perform around current invocation
  report.print

end Metastore.CommandLine
