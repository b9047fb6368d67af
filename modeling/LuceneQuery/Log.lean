import LuceneQuery.Text.Case
import LuceneQuery.Number.Decimal

/-!
# The log

A record is a level and a text.  Higher levels matter more.  A record is kept
if its level is above zero and at least the threshold of the log, and is then
offered to each sink, which has a threshold of its own.  A line shows the
time and the level in four letters.
-/

namespace LuceneQuery.Log

/-! ## Levels -/

/-- The level of details. -/
def debug : Int := 10

/-- The level of ordinary news. -/
def info : Int := 20

/-- The level of doubts. -/
def warning : Int := 30

/-- The level of failures. -/
def error : Int := 40

/-- The level of the end of the program. -/
def critical : Int := 50

/-- The levels by name. -/
def levels : List (Text × Int) :=
  [("DEBUG", debug), ("INFO", info), ("WARNING", warning), ("WARN", warning), ("ERROR", error),
   ("CRITICAL", critical), ("FATAL", critical), ("NOTSET", 0)]

/-- The shape of a line with a level, a name and a message. -/
def lineShape : String := "%(levelname)s:%(name)s:%(message)s"

/-- A name that stands for something else than a level. -/
inductive LevelFault where
  /-- The name is that of the shape of a line. -/
  | shape
  /-- The name is that of the styles that a shape can be written in. -/
  | styles
  deriving DecidableEq, Repr

/-- The fault in words. -/
def LevelFault.message : LevelFault → String
  | .shape => "Unknown level: '" ++ lineShape ++ "'"
  | .styles =>
    "Level not an integer or a valid string: \x7b'%': (<class 'logging.PercentStyle'>, '"
      ++ lineShape ++ "'), '\x7b': (<class 'logging.StrFormatStyle'>, "
      ++ "'\x7blevelname\x7d:\x7bname\x7d:\x7bmessage\x7d'), "
      ++ "'$': (<class 'logging.StringTemplateStyle'>, "
      ++ "'$\x7blevelname\x7d:$\x7bname\x7d:$\x7bmessage\x7d')\x7d"

/-- The names that stand for something else than a level. -/
def reserved : List (Text × LevelFault) := [("BASIC_FORMAT", .shape), ("_STYLES", .styles)]

/-- The level of a name in any case.  A name that is missing, empty or unknown
means `info`. -/
def levelOf (name : Option Text) : Except LevelFault Int :=
  let name := Text.uppercase (name.getD "INFO")
  match reserved.lookup name with
  | some fault => .error fault
  | none => .ok ((levels.lookup name).getD info)

/-- A level in four letters. -/
def abbreviation (level : Int) : String :=
  if level = debug then "DEBG"
  else if level = info then "INFO"
  else if level = warning then "WARN"
  else if level = error ∨ level = critical then "ERRO"
  else if level = 0 then "NOTS"
  else "Leve"

/-! ## Records -/

/-- A message with its level. -/
structure Record where
  /-- The level. -/
  level : Int
  /-- The text. -/
  text : Text
  deriving DecidableEq, Repr

/-- The line of a record, behind the text of its time. -/
def Record.line (time : String) (r : Record) : Text :=
  time ++ "[" ++ abbreviation r.level ++ "] " ++ r.text ++ "\n"

/-- The lines of records. -/
def lines (time : String) (records : List Record) : Text := records.flatMap (Record.line time)

/-! ## Sinks -/

/-- The thresholds of a log. -/
structure Setup where
  /-- The least level of a record that is kept; zero leaves the choice to
  the default. -/
  threshold : Int
  /-- The least level that the console shows. -/
  console : Int
  /-- The least level that the file holds, if there is a file. -/
  file : Option Int

namespace Setup

/-- The setup for a level, with or without a file.  A log that goes to a file
keeps the details for it. -/
def ofLevel (level : Int) (toFile hasFile : Bool) : Setup where
  threshold := if toFile then min debug level else level
  console := level
  file := if hasFile then some debug else none

/-- The least level of a record that is kept. -/
def effective (s : Setup) : Int := if s.threshold = 0 then warning else s.threshold

/-- Whether a record is kept. -/
def keeps (s : Setup) (r : Record) : Bool := 0 < r.level && s.effective ≤ r.level

/-- The records that a sink of the given threshold takes. -/
def taken (s : Setup) (sink : Int) (records : List Record) : List Record :=
  records.filter fun r => s.keeps r && sink ≤ r.level

/-- The records that the console shows. -/
def shown (s : Setup) (records : List Record) : List Record := s.taken s.console records

/-- The records that the file holds, if there is one. -/
def saved? (s : Setup) (records : List Record) : Option (List Record) :=
  s.file.map fun sink => s.taken sink records

end Setup

end LuceneQuery.Log
