import Metastore.Logging.Level
import Metastore.Template.Fill

/-!
# Lines of the log

An entry of the log and the line that it is written as. A line is a template whose conversions name fields of
the entry. On a terminal the level and the message of an entry have the colour of its level, and the names of
this program's own loggers are bold; the entry itself does not change.
-/

namespace Metastore.Logging

/-- The logger of this program, above all its other ones. -/
def ownLogger : String := "remeta"

/-- An entry of the log. -/
structure Entry where
  logger : String
  level : Level
  message : Value
  /-- What the message is filled with, if there is anything. -/
  arguments : List Value
  /-- When it was made: seconds since the beginning of 1970. -/
  created : Int
deriving Repr

namespace Entry

/-- The arguments of a message. A single mapping that is not empty gives them by name. -/
def fillers (e : Entry) : Template.Arguments :=
  match e.arguments with
  | [.map (first :: rest)] => .ofEntries (first :: rest)
  | items => .items items

/-- The message, filled with its arguments. A message without arguments is no template. -/
def text (e : Entry) : Except Problem String :=
  if e.arguments.isEmpty then .ok e.message.display else Template.fill e.message.display e.fillers

/-- The time of day at which an entry was made, in hours, minutes and seconds. -/
def clock (e : Entry) : String :=
  let second := (e.created.fmod (24 * 60 * 60)).toNat
  let two (n : Nat) : List Char := Text.padZeros 2 (Text.decimal n)
  String.ofList (two (second / 3600) ++ ':' :: two (second / 60 % 60) ++ ':' :: two (second % 60))

end Entry

/-! ### Colours -/

/-- A sequence of characters that changes the look of what follows on a terminal. -/
def look (code : String) : String := "\x1b[" ++ code ++ "m"

/-- Ends all changes of the look. -/
def plainLook : String := look "0"

/-- The colour of a level. -/
def colour (level : Level) : String :=
  if level = Level.debug then look "36"
  else if level = Level.info then look "32"
  else if level = Level.warning then look "33"
  else if level = Level.error then look "31"
  else if level = Level.critical then look "35"
  else ""

/-- The parts of an entry that colours change. -/
structure Parts where
  logger : String
  levelName : String
  entry : Entry
deriving Repr

/-- The parts of an entry without colours. -/
def Parts.plain (e : Entry) : Parts := ⟨e.logger, e.level.name, e⟩

/-- The parts of an entry in its colour. -/
def Parts.coloured (e : Entry) : Parts :=
  let c := colour e.level
  { logger :=
      if ownLogger.toList.isPrefixOf e.logger.toList then look "1" ++ e.logger ++ plainLook ++ c
      else e.logger
    levelName := c ++ e.level.name ++ plainLook
    entry := { e with message := .text (c ++ e.message.display ++ plainLook) } }

/-- The fields that a line may name. -/
def Parts.fields (parts : Parts) (text : String) : Mapping :=
  [(.text "asctime", .text parts.entry.clock), (.text "levelname", .text parts.levelName),
   (.text "levelno", .int parts.entry.level), (.text "name", .text parts.logger),
   (.text "msg", parts.entry.message), (.text "message", .text text),
   (.text "exc_info", .null), (.text "exc_text", .null), (.text "stack_info", .null)]

/-! ### Formats -/

/-- How entries are written as lines. -/
structure LineFormat where
  template : String
  coloured : Bool
deriving Repr

namespace LineFormat

/-- The template of a line if no other one is given. -/
def usualTemplate : String := "%(message)s"

/-- Characters of field names. -/
def isNameChar (c : Char) : Bool := Text.isLetter c || Text.isDigit c || c = '_' || 128 ≤ c.toNat

/-- Letters that end a reference to a field. -/
def endsField (c : Char) : Bool := "diouxefgcrsa%".toList.contains c.toLower

/-- The text after a width or precision, which has to be there. -/
def afterMeasure? (cs : List Char) : Option (List Char) :=
  match Template.readMeasure cs with
  | (some _, rest) => some rest
  | (none, _) => none

/-- The text after a precision, if there is one. -/
def afterPrecision (cs : List Char) : List Char :=
  match cs with
  | '.' :: rest => (afterMeasure? rest).getD cs
  | cs => cs

/-- Whether a text starts with a reference to a field. -/
def startsWithField : List Char → Bool
  | '%' :: '(' :: rest =>
    match rest.takeWhile isNameChar, rest.dropWhile isNameChar with
    | _ :: _, ')' :: rest =>
      let rest := rest.dropWhile Template.isFlag
      ((afterPrecision ((afterMeasure? rest).getD rest)).head?.map endsField).getD false
    | _, _ => false
  | _ => false

/-- Whether a text refers to a field somewhere. -/
def hasField : List Char → Bool
  | [] => false
  | c :: rest => startsWithField (c :: rest) || hasField rest

/-- The format with a template, which has to refer to a field. -/
def create (template : String) (coloured : Bool) : Except Problem LineFormat :=
  let template := if template.isEmpty then usualTemplate else template
  if hasField template.toList then .ok { template, coloured } else .error .badValue

/-- Fills the template of a line. A field that entries do not have is an error of the format. -/
def fillLine (template : String) (fields : Mapping) : Except Problem String :=
  match Template.fill template (.ofEntries fields) with
  | .error .missingKey => .error .badValue
  | result => result

/-- The line of an entry. -/
def line (format : LineFormat) (e : Entry) : Except Problem String := do
  let parts := if format.coloured then Parts.coloured e else Parts.plain e
  fillLine format.template (parts.fields (← parts.entry.text))

end LineFormat
end Metastore.Logging
