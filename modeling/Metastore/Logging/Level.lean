import Metastore.Problem
import Metastore.Text.Case
import Metastore.Value.Display

/-!
# Levels of logging

How important an entry is, as a number: the greater the more. Five numbers and zero have names, and some
names are spelled in two ways.
-/

namespace Metastore.Logging

/-- How important an entry is, or how important entries have to be. Zero, where it is asked for, leaves the
decision to the logger above. -/
abbrev Level := Int

namespace Level

/-- The level of a logger that follows the one above it. -/
def undecided : Level := 0

/-- The lowest level that is used. -/
def debug : Level := 10

/-- The level of what is worth knowing. -/
def info : Level := 20

/-- The level of what may be wrong. -/
def warning : Level := 30

/-- The level of what went wrong. -/
def error : Level := 40

/-- The highest level. -/
def critical : Level := 50

/-- The levels with their names. -/
def names : List (Level × String) :=
  [(critical, "CRITICAL"), (error, "ERROR"), (warning, "WARNING"), (info, "INFO"), (debug, "DEBUG"),
   (undecided, "NOTSET")]

/-- Other spellings of levels. -/
def spellings : List (String × Level) := [("FATAL", critical), ("WARN", warning)]

/-- Words that look like the name of a level and stand for something else. -/
def taken : List String := ["BASIC_FORMAT", "_STYLES"]

/-- The name of a level. -/
def name (level : Level) : String :=
  (names.lookup level).getD ("Level " ++ String.ofList (Text.integer level))

/-- The level with a name in capitals. -/
def named? (word : String) : Option Level :=
  ((names.find? (·.2 == word)).map (·.1)).or (spellings.lookup word)

/-- The level that a setting asks for, in any letter case: `info` if it is not the name of one. -/
def ofSetting (v : Value) : Except Problem Level :=
  let word := Text.asciiCapitals v.display
  if taken.contains word then .error .wrongType else .ok ((named? word).getD info)

/-- A level moved by a number of steps, but no further than to the lowest or highest one with a name. -/
def shift (level : Level) (steps : Int) : Level := min critical (max debug (level + 10 * steps))

end Level
end Metastore.Logging
