/-
Levels: the numbers that decide which events are written, and the words for them.
-/
namespace JmsNaming.Log

/-- The level that counts as not set. -/
def unsetLevel : Nat := 0

/-- The words for levels. -/
def levelWords : List (String × Nat) :=
  [("CRITICAL", 50), ("FATAL", 50), ("ERROR", 40), ("WARNING", 30), ("WARN", 30), ("INFO", 20), ("DEBUG", 10),
    ("NOTSET", unsetLevel)]

/-- The level of a word that means none. -/
def otherLevel : Nat := 20

/-- The line layout of the plain style. -/
def plainLayout : String := "%(levelname)s:%(name)s:%(message)s"

/-- Two words mean something else than a level and cannot be one. -/
inductive LevelFault where
  /-- The word for the layout of lines. -/
  | layout
  /-- The word for the table of line styles. -/
  | styles
  deriving DecidableEq

def LevelFault.message : LevelFault → String
  | layout => "Unknown level: '" ++ plainLayout ++ "'"
  | styles =>
    "Level not an integer or a valid string: \x7b'%': (<class 'logging.PercentStyle'>, '" ++ plainLayout ++
      "'), '\x7b': (<class 'logging.StrFormatStyle'>, '\x7blevelname\x7d:\x7bname\x7d:\x7bmessage\x7d'), " ++
      "'$': (<class 'logging.StringTemplateStyle'>, '$\x7blevelname\x7d:$\x7bname\x7d:$\x7bmessage\x7d')\x7d"

/-- The level that a word in capitals means. -/
def levelOf (word : String) : Except LevelFault Nat :=
  match levelWords.lookup word with
  | some n => .ok n
  | none =>
    if word = "BASIC_FORMAT" then .error .layout
    else if word = "_STYLES" then .error .styles
    else .ok otherLevel

end JmsNaming.Log
