import Metastore.Text.Digits

/-!
# Dates and times

Calendar dates of the years 1 to 9999, alone or with a time of day, which may be at an offset from UTC.
-/

namespace Metastore

/-- A time of day, to the microsecond, with its offset from UTC in minutes if it has one. -/
structure TimeOfDay where
  hour : Nat
  minute : Nat
  second : Nat
  microsecond : Nat
  offset : Option Int
deriving DecidableEq, Repr

/-- A calendar date, with a time of day if it has one. -/
structure Timestamp where
  year : Nat
  month : Nat
  day : Nat
  time : Option TimeOfDay
deriving DecidableEq, Repr

namespace Timestamp

/-- Leap years of the Gregorian calendar. -/
def isLeap (year : Nat) : Bool := (year % 4 = 0 && year % 100 ≠ 0) || year % 400 = 0

/-- The number of days of a month. -/
def daysIn (year month : Nat) : Nat :=
  if month = 2 then if isLeap year then 29 else 28
  else if month = 4 || month = 6 || month = 9 || month = 11 then 30
  else 31

/-- Whether the date exists, the time of day is one, and the offset is less than a day. -/
def isValid (t : Timestamp) : Bool :=
  1 ≤ t.year && t.year ≤ 9999 && 1 ≤ t.month && t.month ≤ 12
    && 1 ≤ t.day && t.day ≤ daysIn t.year t.month
    && match t.time with
      | none => true
      | some c => c.hour < 24 && c.minute < 60 && c.second < 60
          && match c.offset with
            | none => true
            | some o => o.natAbs < 24 * 60

/-- A number with two digits. -/
def two (n : Nat) : List Char := Text.padZeros 2 (Text.decimal n)

/-- The date as `YYYY-MM-DD`. -/
def dateText (t : Timestamp) : List Char :=
  Text.padZeros 4 (Text.decimal t.year) ++ ['-'] ++ two t.month ++ ['-'] ++ two t.day

/-- The time as `HH:MM:SS`, with microseconds unless they are zero, and the offset if there is one. -/
def timeText (c : TimeOfDay) : List Char :=
  two c.hour ++ [':'] ++ two c.minute ++ [':'] ++ two c.second
    ++ (if c.microsecond = 0 then [] else '.' :: Text.padZeros 6 (Text.decimal c.microsecond))
    ++ match c.offset with
      | none => []
      | some o => (if o < 0 then '-' else '+') :: two (o.natAbs / 60) ++ [':'] ++ two (o.natAbs % 60)

/-- Date and time with a character between them. -/
def render (separator : Char) (t : Timestamp) : String :=
  String.ofList <| dateText t ++ match t.time with
    | none => []
    | some c => separator :: timeText c

/-- The standard form, with a `T` between date and time. -/
def iso (t : Timestamp) : String := t.render 'T'

/-- The readable form, with a space between date and time. -/
def plain (t : Timestamp) : String := t.render ' '

/-- The offset as a number of days and a number of seconds that is not negative. -/
def offsetText (minutes : Int) : List Char :=
  let days := minutes.fdiv (24 * 60)
  let seconds := (minutes.fmod (24 * 60)) * 60
  let fields :=
    (if days = 0 then [] else ["days=".toList ++ Text.integer days])
      ++ (if seconds = 0 then [] else ["seconds=".toList ++ Text.integer seconds])
  if minutes = 0 then "datetime.timezone.utc".toList
  else "datetime.timezone(datetime.timedelta(".toList ++ (", ".toList.intercalate fields) ++ "))".toList

/-- The form used inside the text of a list or mapping: the fields as arguments, without the seconds and
microseconds that are zero at the end. -/
def fields (t : Timestamp) : String :=
  let date := [t.year, t.month, t.day]
  let join (ns : List Nat) : List Char := ", ".toList.intercalate (ns.map Text.decimal)
  match t.time with
  | none => String.ofList ("datetime.date(".toList ++ join date ++ [')'])
  | some c =>
    let tail :=
      if c.microsecond ≠ 0 then [c.second, c.microsecond] else if c.second ≠ 0 then [c.second] else []
    let zone := match c.offset with
      | none => []
      | some o => ", tzinfo=".toList ++ offsetText o
    String.ofList <|
      "datetime.datetime(".toList ++ join (date ++ [c.hour, c.minute] ++ tail) ++ zone ++ [')']

end Timestamp
end Metastore
