import JmsNaming.Log.Line
import JmsNaming.Log.Loggers
import JmsNaming.Settings.Binding
import JmsNaming.Value.Kind

/-
The logging setup: the loggers in use and the form of the lines, as the logging section of the
settings lays them down.
-/
namespace JmsNaming.Log

/-- The loggers in use and the form of the lines. -/
structure Setup where
  loggers : Loggers := {}
  format : Format := .console

/-! ## What the settings say -/

/-- The words of the logging section: the level of the root, the form of the lines, and the levels of
other loggers. -/
structure Plan where
  rootLevel : String
  format : String
  levels : List (Scalar × String)

/-- Why the logging section cannot be put into force. -/
inductive Fault where
  | binding (fault : Schema.Fault)
  | table (fault : Value.TableFault)
  | template (fault : Template.Fault)
  | level (fault : LevelFault)
  /-- A value that should be a word has no text. -/
  | unwritable (fault : Number.Unwritable)
  /-- A logger is named by something else than a text. -/
  | loggerName

def Fault.message : Fault → String
  | binding fault => fault.message
  | table fault => fault.message
  | template fault => fault.message
  | level fault => fault.message
  | unwritable fault => fault.message
  | loggerName => "A logger name must be a string"

/-- A value as a word in capitals. -/
def capitals (v : Value) : Except Fault String :=
  (v.toText.mapError .unwritable).map fun word => String.ofList (Text.upper word.toList)

/-- The level that the root has where none is given. -/
def defaultRootLevel : String := "INFO"

/-- Reads the logging section. The form of the lines may come from a variable; levels do not. -/
def Plan.read (s : Settings) (vars : Variables) : Except Fault Plan := do
  let fields ← (Schema.logging.bind s).mapError .binding
  let levels ← ((fields.lookup "level").getD .null).toTable.mapError .table
  let rootLevel ← capitals ((Table.get? levels "root").getD (.text defaultRootLevel))
  let levels ← (levels.filter fun e => !e.1.sameKey (.text "root")).mapM fun e => do return (e.1, ← capitals e.2)
  let format ← (s.get vars "rmqjms.logging.format" ((fields.lookup "format").getD .null)).mapError .template
  let format ← format.toText.mapError .unwritable
  return { rootLevel, format := String.ofList (Text.lower format.toList), levels }

/-! ## Putting it into force -/

namespace Setup

/-- Gives a logger the level of a word. -/
def setLevel (s : Setup) (logger : Scalar) (word : String) : Except Fault Unit × Setup :=
  match LoggerName.ofScalar? logger with
  | none => (.error .loggerName, s)
  | some name =>
    match levelOf (String.ofList (Text.upper word.toList)) with
    | .error fault => (.error (.level fault), { s with loggers := s.loggers.visit name })
    | .ok level => (.ok (), { s with loggers := s.loggers.set level name })

/-- Gives loggers their levels in order, up to the first that is refused. -/
def setLevels (s : Setup) : List (Scalar × String) → Except Fault Unit × Setup
  | [] => (.ok (), s)
  | (logger, word) :: rest =>
    match s.setLevel logger word with
    | (.ok (), s) => setLevels s rest
    | refused => refused

/-- Puts a plan into force: the form of the lines, the level of the root, and the other levels.
Loggers that the plan does not name keep the levels they have. -/
def apply (s : Setup) (plan : Plan) : Except Fault Unit × Setup :=
  let s := { s with format := .ofText plan.format }
  match levelOf plan.rootLevel with
  | .error fault => (.error (.level fault), s)
  | .ok level => { s with loggers := s.loggers.set level .root }.setLevels plan.levels

/-- Puts the logging section of the settings into force. -/
def configure (s : Setup) (settings : Settings) (vars : Variables) : Except Fault Plan × Setup :=
  match Plan.read settings vars with
  | .error fault => (.error fault, s)
  | .ok plan =>
    let (done, s) := s.apply plan
    (done.map fun _ => plan, s)

/-! ## Events -/

/-- What an event writes: its text if it is at least as grave as the level of its logger. An event
that has no text is refused even where it would not be written. -/
def log (s : Setup) (logger : LoggerName) (e : Event) : Except EventFault String × Setup :=
  let s := { s with loggers := s.loggers.visit logger }
  let written := (e.text s.format logger.text).map fun text =>
    if s.loggers.effective logger ≤ e.severity.level then text ++ "\n" else ""
  (written, s)

/-- What events write one after the other, up to the first that is refused. -/
def logAll (s : Setup) (logger : LoggerName) : List Event → String
  | [] => ""
  | e :: rest =>
    match s.log logger e with
    | (.ok text, s) => text ++ logAll s logger rest
    | (.error _, _) => ""

end Setup

end JmsNaming.Log
