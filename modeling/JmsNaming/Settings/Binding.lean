import JmsNaming.Number.Reading
import JmsNaming.Settings.Basic

/-
Binding a section of the settings to the fields of a record: texts are converted where a field is a
number or a truth value, and an absent field takes its default.
-/
namespace JmsNaming

/-- What a text is converted to for a field. -/
inductive FieldType where
  | whole
  | float
  | bool
  /-- Any value, as it is. -/
  | any
  deriving DecidableEq

structure Field where
  name : String
  type : FieldType := .any
  default : Option Value := none

/-- A record that a section can be bound to; without a key it belongs to no section. -/
structure Schema where
  name : String
  key : Option String
  fields : List Field

namespace Schema

/-- Why a section cannot be bound. -/
inductive Fault where
  | noSection (record : String)
  | number (fault : Number.Fault)
  | missing (record : String) (fields : List String)

/-- Names in quotes, with commas and a final conjunction. -/
def nameList : List String → String
  | [] => ""
  | [a] => "'" ++ a ++ "'"
  | [a, b] => "'" ++ a ++ "' and '" ++ b ++ "'"
  | names =>
    let quoted := names.map fun n => "'" ++ n ++ "'"
    String.intercalate ", " quoted.dropLast ++ ", and " ++ quoted.getLastD ""

def Fault.message : Fault → String
  | noSection record => record ++ " is not decorated with @config_properties"
  | number fault => fault.message
  | missing record fields =>
    record ++ ".__init__() missing " ++ toString fields.length ++ " required positional argument" ++
      (if fields.length = 1 then "" else "s") ++ ": " ++ nameList fields

/-- The words that are true, in any letter case. -/
def isYes (s : String) : Bool :=
  let word := String.ofList (Text.lower s.toList)
  word == "true" || word == "1" || word == "yes"

/-- The value of a field, converted if it is a text. -/
def convert (type : FieldType) : Value → Except Number.Fault Value
  | .scalar (.text s) =>
    match type with
    | .whole => (Number.readWhole s).map .int
    | .float => (Number.readFloat s).map fun x => .scalar (.float x)
    | .bool => .ok (.bool (isYes s))
    | .any => .ok (.text s)
  | v => .ok v

/-- The values given in a section, up to the first that cannot be converted. -/
def given (table : Table) : List Field → Except Number.Fault (List (Field × Option Value))
  | [] => .ok []
  | f :: rest =>
    match table.get? f.name with
    | some v =>
      match convert f.type v with
      | .ok w => (given table rest).map ((f, some w) :: ·)
      | .error fault => .error fault
    | none => (given table rest).map ((f, none) :: ·)

/-- The fields of a record with their values from the settings, or else their defaults. -/
def bind (schema : Schema) (s : Settings) : Except Fault (List (String × Value)) :=
  match schema.key with
  | none => .error (.noSection schema.name)
  | some key =>
    match given (s.getSection key) schema.fields with
    | .error fault => .error (.number fault)
    | .ok values =>
      let missing := values.filter fun p => p.2.isNone && p.1.default.isNone
      if missing.isEmpty then .ok (values.map fun p => (p.1.name, p.2.getD (p.1.default.getD .null)))
      else .error (.missing schema.name (missing.map (·.1.name)))

/-- The logging section: levels by logger, and the format of the lines. -/
def logging : Schema :=
  { name := "LoggingProperties", key := some "rmqjms.logging"
    fields := [
      { name := "level", default := some (.map [(.text "root", .text "INFO")]) },
      { name := "format", default := some (.text "console") }] }

/-- The naming section: the environment tables of the resources by name. -/
def naming : Schema :=
  { name := "NamingProperties", key := some "rmqjms.naming"
    fields := [{ name := "resources", default := some (.map []) }] }

end Schema

end JmsNaming
