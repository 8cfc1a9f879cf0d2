import Metastore.CommandLine

/-!
The program: runs a command line in the environment and on the files of its process.
-/

namespace Metastore.Process

/-- The assignments in the environment block of a process, which end with a zero each. -/
def assignments (block : String) : List (String × String) :=
  (Text.splitBy (· == '\x00') block.toList).filterMap fun entry =>
    match Text.cutAt '=' entry with
    | (name, some value) => some (String.ofList name, String.ofList value)
    | _ => none

/-- The environment of this process. -/
def processEnvironment : IO Environment := do
  let block ← (IO.FS.readBinFile "/proc/self/environ").toBaseIO
  let text := match block with
    | .ok bytes => (String.fromUTF8? bytes).getD ""
    | .error _ => ""
  return .ofAssignments (assignments text)

/-- The files with given names that can be read. -/
def readFiles (names : List String) : IO Files := do
  let mut files : Files := []
  for name in names do
    if let .ok bytes ← (IO.FS.readBinFile name).toBaseIO then files := files ++ [(name, bytes)]
  return files

/-- The names of the configurations that words may refer to. -/
def configNames (env : Environment) (words : List String) : List String :=
  Config.homePath env :: match CommandLine.Invocation.read words with
    | .ok invocation => invocation.config.toList
    | .error _ => []

/-- The names of the files with authorities that the settings refer to. -/
def authorityNames (files : Files) (env : Environment) (words : List String) : List String :=
  let settings := do
    let current ← (Config.load files env (Config.homePath env)).mapError CommandLine.Ending.failed
    let invocation ← (CommandLine.Invocation.read words).mapError CommandLine.Ending.stopped
    CommandLine.settingsFor files env current invocation
  match settings with
  | .ok settings => (settings.getText Setting.caCerts).text?.toList
  | .error _ => []

/-- How the program is called. -/
def usage : String := "usage: [--config PATH] (check | show-config) [--set KEY=VALUE]..."

/-- Prints how a command ended without a report and gives the exit status for it. -/
def endWithout : CommandLine.Ending → IO UInt32
  | .stopped .help => do
    IO.println usage
    return 0
  | .stopped .misuse => do
    IO.eprintln usage
    return 2
  | .badOverride text => do
    IO.eprintln (CommandLine.badOverrideMessage text)
    return 1
  | .failed problem => do
    IO.eprintln (problem.message?.getD "the command failed")
    return 1

/-- Runs the words of a command line and gives the exit status. -/
def run (words : List String) : IO UInt32 := do
  let env ← processEnvironment
  let configs ← readFiles (configNames env words)
  let authorities ← readFiles (authorityNames configs env words)
  let around : Surroundings := { files := configs ++ authorities, env, sources := Source.usual env }
  let action : CommandLine.Run CommandLine.Printed := do
    let current ← (Config.load around.files env (Config.homePath env)).mapError CommandLine.Ending.failed
    CommandLine.run around current words
  match action ⟨false, {}⟩ with
  | (.error ending, _) => endWithout ending
  | (.ok printed, _) =>
    IO.print printed.text
    return UInt32.ofNat (printed.status?.getD 0)

end Metastore.Process

/-- Runs the command line. -/
def main (words : List String) : IO UInt32 := Metastore.Process.run words
