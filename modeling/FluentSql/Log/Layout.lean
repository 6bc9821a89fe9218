import FluentSql.Log.Level

/-! Records and the layouts in which they are written. -/
namespace FluentSql.Log

def epoch : String := "1970-01-01 00:00:00"

structure Record where
  logger : String
  levelName : String
  message : String
  time : String := epoch
  deriving DecidableEq, Repr

inductive Field where
  | emoji | time | logger | level | message
  deriving DecidableEq, Repr

def Field.key : Field → String
  | .emoji => "emoji"
  | .time => "asctime"
  | .logger => "name"
  | .level => "levelname"
  | .message => "message"

inductive Part where
  | field (f : Field)
  | text (s : String)
  deriving DecidableEq, Repr

/-- The parts of a line in order. A colored layout marks the level with color and knows emoji. -/
structure Layout where
  colored : Bool
  parts : List Part
  deriving DecidableEq, Repr

def escape (code : Nat) : String := "\x1b[" ++ toString code ++ "m"

/-- The color codes of the level names, among them the name of the code that ends a color. -/
def colors : List (String × Nat) :=
  [("DEBUG", 36), ("INFO", 32), ("WARNING", 33), ("ERROR", 31), ("CRITICAL", 35), ("RESET", 0)]

def emojis : List (String × String) :=
  [("DEBUG", "🔍"), ("INFO", "ℹ️ "), ("WARNING", "⚠️ "), ("ERROR", "❌"), ("CRITICAL", "🔥")]

def coloredName (name : String) : String :=
  match colors.lookup name with
  | some code => escape code ++ name ++ escape 0
  | none => name

namespace Layout

def fieldText (colored : Bool) (r : Record) : Field → String
  | .emoji => if colored then (emojis.lookup r.levelName).getD "" else ""
  | .time => r.time
  | .logger => r.logger
  | .level => if colored then coloredName r.levelName else r.levelName
  | .message => r.message

def partText (colored : Bool) (r : Record) : Part → String
  | .field f => fieldText colored r f
  | .text s => s

/-- The line of a record, without a line end. -/
def line (layout : Layout) (r : Record) : String :=
  (layout.parts.map (partText layout.colored r)).foldr (· ++ ·) ""

/-- The notation of a layout, in which each field is named. -/
def pattern (layout : Layout) : String :=
  (layout.parts.map fun
    | .field f => "%(" ++ f.key ++ ")s"
    | .text s => s).foldr (· ++ ·) ""

/-- The notation of times. -/
def timePattern : String := "%Y-%m-%d %H:%M:%S"

def dash : Part := .text " - "

/-- The layout for files, and for a console without color. -/
def plain : Layout :=
  { colored := false,
    parts := [.field .time, dash, .field .logger, dash, .field .level, dash, .field .message] }

def vivid : Layout :=
  { colored := true, parts := .field .emoji :: .text " " :: plain.parts }

/-- A colored layout without the time. -/
def timeless : Layout :=
  { colored := true,
    parts := [.field .emoji, .text " ", .field .logger, dash, .field .level, dash,
      .field .message] }

theorem line_plain (r : Record) :
    plain.line r = r.time ++ " - " ++ r.logger ++ " - " ++ r.levelName ++ " - " ++ r.message := by
  simp [line, plain, partText, fieldText, dash, String.append_assoc]

end Layout

end FluentSql.Log
