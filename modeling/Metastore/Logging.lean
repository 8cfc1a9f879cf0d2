import Metastore.Config.Current
import Metastore.Logging.Line
import Metastore.Value.Shape

/-!
# Logging

Which entries are logged. Loggers have names with points between their parts, and a logger for which no level
was set follows the nearest one above it, in the end the root logger. The configuration gives the level of
this program; its libraries are a step less verbose, everything else is two steps less verbose, and the
configuration may name loggers that are watched or debugged.
-/

namespace Metastore.Logging

/-! ### Loggers -/

/-- The levels that were set, by name. The root logger has the empty name. -/
abbrev Loggers := List (String × Level)

/-- The name that the root logger may be given in a configuration. -/
def rootName : String := "root"

/-- The name of the logger that a text stands for. -/
def canonical (name : String) : String := if name = rootName then "" else name

/-- The logger that a value stands for: values that count as no are the root logger. -/
def loggerOf : Value → Except Problem String
  | .text s => .ok (canonical s)
  | v => if v.truthy then .error .wrongType else .ok ""

/-- The logger of this program with a name below its own, or its own logger. -/
def ownLoggerFor : Value → Except Problem String
  | .text s => .ok (if s.isEmpty then ownLogger else ownLogger ++ "." ++ s)
  | v => if v.truthy then .error .wrongType else .ok ownLogger

/-- The names above a name, from the nearest one. All are written backwards. A part has at least one
character, which may be a point. -/
def above : List Char → List (List Char)
  | '.' :: c :: rest => (c :: rest) :: above rest
  | _ :: rest => above rest
  | [] => []

/-- A logger's name and the names above it, from the nearest one to the root. -/
def upwards (name : String) : List String :=
  name :: (above name.toList.reverse).map (fun cs => String.ofList cs.reverse) ++ [""]

namespace Loggers

/-- The level that was set for a logger. -/
def own (loggers : Loggers) (name : String) : Level := (loggers.lookup name).getD Level.undecided

/-- Sets the level of a logger. -/
def set (loggers : Loggers) (name : String) (level : Level) : Loggers :=
  (name, level) :: loggers.filter (·.1 != name)

/-- The level that holds for a logger. -/
def effective (loggers : Loggers) (name : String) : Level :=
  (((upwards name).map loggers.own).find? (· != Level.undecided)).getD Level.undecided

/-- Sets one level for the loggers that values stand for. -/
def setAll (loggers : Loggers) (level : Level) : List Value → Except Problem Loggers
  | [] => .ok loggers
  | v :: rest => do setAll (loggers.set (← loggerOf v) level) level rest

/-- Whether entries of a level are logged by a logger. -/
def isEnabled (loggers : Loggers) (name : String) (level : Level) : Bool :=
  loggers.effective name ≤ level

end Loggers

/-! ### Configuration -/

/-- A group of loggers that the configuration names. -/
structure Group where
  /-- Where the configuration names them. -/
  path : Path
  /-- The loggers if it does not. -/
  usual : List String
  /-- Their level, given the level of this program. -/
  level : Level → Level

/-- Where the configuration gives the level of this program. -/
def levelPath : Path := ["log", "level"]

/-- The libraries that are usually a step less verbose. -/
def usualQuiet : List String := ["botocore", "boto3", "urllib3", "opensearch"]

/-- The groups, in the order in which their levels are set. -/
def groups : List Group :=
  [⟨["log", "debug"], [], fun _ => Level.debug⟩,
   ⟨["log", "watch"], [], (Level.shift · (-1))⟩,
   ⟨["log", "quiet"], usualQuiet, (Level.shift · 1)⟩]

/-- Sets the level of a group. -/
def setGroup (base : Level) (loggers : Loggers) (group : Group) : Config.Use Loggers := do
  let named ← Config.Use.read group.path (.list (group.usual.map .text))
  loggers.setAll (group.level base) (← named.elements)

/-- Sets up the loggers as the configuration says. -/
def setUp : Config.Use Loggers := do
  let base ← Level.ofSetting (← Config.Use.read levelPath .null)
  let loggers := Loggers.set (Loggers.set [] "" (base.shift 2)) ownLogger base
  groups.foldlM (setGroup base) loggers

/-! ### Writing entries -/

/-- The template of the lines of the log. -/
def template : String := "%(asctime)s %(levelname)-5s %(name)s: %(message)s"

/-- How entries are written, on a terminal or elsewhere. -/
def format (terminal : Bool) : LineFormat := { template, coloured := terminal }

/-- What an entry adds to the log: a line, unless its level is not enabled or it cannot be written. -/
def written (loggers : Loggers) (terminal : Bool) (e : Entry) : String :=
  if loggers.isEnabled (canonical e.logger) e.level then
    match (format terminal).line e with
    | .ok line => line ++ "\n"
    | .error _ => ""
  else ""

end Metastore.Logging
